import FieldResolution.Proofs.Model.ShapeOrder
import Mathlib.Data.List.Forall2

/-!
# What a document declares

The relations between the parts of a document and what they declare, without the order in which a
reader looks at them: an entry or a mapping and a member, a definition and its members, an entry
and a shape, a mapping and an operation.  `Declares` puts them together: shapes, members and
operations stand in the order of the document, and every reference is to the shape that has the
name, wherever that is declared.  A reader answers with what is declared and with nothing else
(`ofDocument_eq_ok_iff`).
-/

namespace FieldResolution

/-! ## Lists -/

section Lists

variable {α β γ ε : Type}

/-- A list is read entry by entry. -/
theorem readAll_eq_ok_iff {read : α → Except ε β} {l : List α} {bs : List β} :
    readAll read l = .ok bs ↔ List.Forall₂ (fun a b => read a = .ok b) l bs := by
  induction l generalizing bs with
  | nil =>
    rw [List.forall₂_nil_left_iff]
    exact ⟨fun h => (Except.ok.inj h).symm, fun h => congrArg Except.ok h.symm⟩
  | cons a rest ih =>
    rw [readAll_cons_eq_ok_iff, List.forall₂_cons_left_iff]
    constructor
    · rintro ⟨b, hb, bs', hbs, rfl⟩
      exact ⟨b, bs', hb, ih.1 hbs, rfl⟩
    · rintro ⟨b, bs', hb, hbs, rfl⟩
      exact ⟨b, hb, bs', ih.2 hbs, rfl⟩

theorem readAll_congr {read : α → Except ε β} {R : α → β → Prop}
    (h : ∀ a b, read a = .ok b ↔ R a b) {l : List α} {bs : List β} :
    readAll read l = .ok bs ↔ List.Forall₂ R l bs := by
  simp only [readAll_eq_ok_iff, h]

theorem forall_of_forall₂ {R : α → β → Prop} {P : β → Prop} (h : ∀ a b, R a b → P b) {l : List α}
    {bs : List β} (each : List.Forall₂ R l bs) : ∀ b ∈ bs, P b := by
  induction each with
  | nil => exact fun b hb => absurd hb List.not_mem_nil
  | cons first _ ih => exact List.forall_mem_cons.2 ⟨h _ _ first, ih⟩

theorem forall₂_exists_map_iff {R : α → γ → Prop} {f : γ → β} {l : List α} {bs : List β} :
    List.Forall₂ (fun a b => ∃ c, R a c ∧ b = f c) l bs ↔
      ∃ cs, List.Forall₂ R l cs ∧ bs = cs.map f := by
  constructor
  · intro h
    induction h with
    | nil => exact ⟨[], .nil, rfl⟩
    | cons first _ ih =>
      obtain ⟨c, hc, rfl⟩ := first
      obtain ⟨cs, hcs, rfl⟩ := ih
      exact ⟨c :: cs, .cons hc hcs, rfl⟩
  · rintro ⟨cs, h, rfl⟩
    rw [List.forall₂_map_right_iff]
    exact h.imp fun a c hc => ⟨c, hc, rfl⟩

end Lists

/-! ## Values that may be left out -/

namespace Document

variable {entries : List (Scalar × Document)} {key : String} {d v : Document}

theorem present?_eq_some_iff : d.present? = some v ↔ d.truthy = true ∧ d = v := by
  unfold present?
  split_ifs with h <;> simp [h]

theorem presentAt?_eq_some_iff :
    presentAt? entries key = some v ↔ lookup entries key = some v ∧ v.truthy = true := by
  unfold presentAt?
  simp only [Option.bind_eq_some_iff, present?_eq_some_iff]
  constructor
  · rintro ⟨d, hd, present, rfl⟩
    exact ⟨hd, present⟩
  · rintro ⟨hv, present⟩
    exact ⟨v, hv, present, rfl⟩

theorem presentAt?_eq_text_iff {s : String} :
    presentAt? entries key = some (.text s) ↔ lookup entries key = some (.text s) ∧ s ≠ "" := by
  rw [presentAt?_eq_some_iff]
  simp [truthy, Scalar.truthy]

end Document

open Document (lookup presentAt?)

/-! ## Members -/

section Declarations

variable (names : List String)

/-- A text that spells the type. -/
def TypeText (d : Document) (t : MemberType) : Prop :=
  ∃ spelling, d = .text spelling ∧ Spells names spelling.toList t

/-- An entry from a name to a spelling declares a member that is not required. -/
def EntryDeclares (e : Scalar × Document) (x : Member) : Prop :=
  e.1 = .text x.name ∧ TypeText names e.2 x.type ∧ x.required = false

/-- A mapping with a name and a type declares a member. -/
def ItemDeclares (d : Document) (x : Member) : Prop :=
  ∃ entries, d = .mapping entries ∧ lookup entries "name" = some (.text x.name) ∧
    (∃ type, lookup entries "type" = some type ∧ TypeText names type x.type) ∧
    x.required = (presentAt? entries "required").isSome

/-- The members of a shape are declared by entries or by items, in order. -/
inductive DeclareMembers : Document → List Member → Prop
  | entries {entries : List (Scalar × Document)} {members : List Member}
      (each : List.Forall₂ (EntryDeclares names) entries members) :
      DeclareMembers (.mapping entries) members
  | items {items : List Document} {members : List Member}
      (each : List.Forall₂ (ItemDeclares names) items members) :
      DeclareMembers (.list items) members

/-- A definition that is left out, or that leaves out its members, declares none. -/
inductive Defines : Document → List Member → Prop
  | absent {d : Document} (left : d.present? = none) : Defines d []
  | bare {definition : List (Scalar × Document)}
      (left : presentAt? definition "members" = none) : Defines (.mapping definition) []
  | full {definition : List (Scalar × Document)} {d : Document} {members : List Member}
      (found : presentAt? definition "members" = some d) (each : DeclareMembers names d members) :
      Defines (.mapping definition) members

/-- An entry from a name to a definition declares a shape. -/
def ShapeDeclared (e : Scalar × Document) (s : Shape) : Prop :=
  e.1 = .text s.name ∧ Defines names e.2 s.members

/-! ## Operations -/

/-- A reference that is left out is to no shape, a name is to the shape that has it. -/
inductive Refers : Option Document → Option Nat → Prop
  | absent : Refers none none
  | null : Refers (some .null) none
  | name {name : String} {i : Nat} (found : lastIndex? names name = some i) :
      Refers (some (.text name)) (some i)

/-- The kind of an operation is given by its name, or else told by that of the operation. -/
def TellsKind (operation : String) : Option Document → OperationKind → Prop
  | none, k => k = OperationKind.infer operation
  | some d, k => d = .text k.name

/-- A mapping with a name declares an operation. -/
def OperationDeclared (d : Document) (o : Operation) : Prop :=
  ∃ entries, d = .mapping entries ∧ lookup entries "name" = some (.text o.name) ∧ o.name ≠ "" ∧
    TellsKind o.name (presentAt? entries "type") o.kind ∧
    Refers names (lookup entries "input") o.input ∧
    Refers names (lookup entries "output") o.output

end Declarations

/-! ## Models -/

/-- The entries under `shapes`, if that is left out or a mapping. -/
def ShapesAt (entries definitions : List (Scalar × Document)) : Prop :=
  match presentAt? entries "shapes" with
  | none => definitions = []
  | some d => d = .mapping definitions

/-- The items under `operations`, if that is left out or a list. -/
def OperationsAt (entries : List (Scalar × Document)) (items : List Document) : Prop :=
  match presentAt? entries "operations" with
  | none => items = []
  | some d => d = .list items

/-- A document declares a model: its shapes and its operations in order, no name of either twice. -/
def Declares (d : Document) (m : Model) : Prop :=
  ∃ entries definitions items, d = .mapping entries ∧
    ShapesAt entries definitions ∧ OperationsAt entries items ∧
    List.Forall₂ (ShapeDeclared m.shapeNames) definitions m.shapes ∧
    List.Forall₂ (OperationDeclared m.shapeNames) items m.operations ∧
    m.shapeNames.Nodup ∧ (m.operations.map Operation.name).Nodup

/-! ## Positions -/

section Positions

variable {names : List String}

theorem DeclareMembers.typed {d : Document} {members : List Member}
    (h : DeclareMembers names d members) : ∀ x ∈ members, ∃ d, TypeText names d x.type := by
  cases h with
  | entries each => exact forall_of_forall₂ (fun e x h => ⟨e.2, h.2.1⟩) each
  | items each =>
    refine forall_of_forall₂ (fun d x h => ?_) each
    obtain ⟨_, -, -, ⟨type, -, typed⟩, -⟩ := h
    exact ⟨type, typed⟩

theorem Defines.typed {d : Document} {members : List Member} (h : Defines names d members) :
    ∀ x ∈ members, ∃ d, TypeText names d x.type := by
  cases h with
  | absent => exact fun _ hx => absurd hx List.not_mem_nil
  | bare => exact fun _ hx => absurd hx List.not_mem_nil
  | full _ each => exact each.typed

theorem Refers.lt {reference : Option Document} {position : Option Nat}
    (h : Refers names reference position) : ∀ i, position = some i → i < names.length := by
  cases h with
  | absent => exact nofun
  | null => exact nofun
  | name found =>
    rintro i ⟨⟩
    exact lt_of_lastIndex? found

theorem OperationDeclared.shapeIndex?_lt {d : Document} {o : Operation}
    (h : OperationDeclared names d o) : ∀ r i, o.shapeIndex? r = some i → i < names.length := by
  obtain ⟨_, -, -, -, -, refersIn, refersOut⟩ := h
  intro r
  cases r with
  | input => exact refersIn.lt
  | output => exact refersOut.lt

end Positions

/-! ## The readers of members and shapes -/

section Readers

variable {names : List String}

theorem Member.ofParts_eq_ok_iff {shape : String} {name type : Document} {required : Bool}
    {x : Member} :
    ofParts names shape name type required = .ok x ↔
      name = .text x.name ∧ TypeText names type x.type ∧ x.required = required := by
  constructor
  · intro h
    unfold ofParts at h
    split at h
    · split at h
      · rename_i spelling
        split at h
        · rename_i parsed
          cases h
          exact ⟨rfl, ⟨spelling, rfl, MemberType.parse_eq_ok_iff.1 parsed⟩, rfl⟩
        · cases h
      · cases h
    · cases h
  · rintro ⟨rfl, ⟨spelling, rfl, spelled⟩, rfl⟩
    unfold ofParts
    simp only [MemberType.parse_eq_ok_iff.2 spelled]

theorem Member.ofEntry_eq_ok_iff {shape : String} {e : Scalar × Document} {x : Member} :
    ofEntry names shape e = .ok x ↔ EntryDeclares names e x := by
  unfold ofEntry EntryDeclares
  rw [ofParts_eq_ok_iff, Document.scalar.injEq]

theorem Member.ofDocument_eq_ok_iff {shape : String} {d : Document} {x : Member} :
    ofDocument names shape d = .ok x ↔ ItemDeclares names d x := by
  constructor
  · intro h
    unfold ofDocument at h
    split at h
    · rename_i entries
      split at h
      · rename_i name type hName hType
        obtain ⟨rfl, spelled, required⟩ := ofParts_eq_ok_iff.1 h
        exact ⟨entries, rfl, hName, ⟨type, hType, spelled⟩, required⟩
      · cases h
    · cases h
  · rintro ⟨entries, rfl, hName, ⟨type, hType, spelled⟩, required⟩
    unfold ofDocument
    simp only [hName, hType]
    exact ofParts_eq_ok_iff.2 ⟨rfl, spelled, required⟩

theorem Shape.membersOfDocument_eq_ok_iff {shape : String} {d : Document}
    {members : List Member} :
    membersOfDocument names shape d = .ok members ↔ DeclareMembers names d members := by
  constructor
  · intro h
    unfold membersOfDocument at h
    split at h
    · exact .entries ((readAll_congr fun _ _ => Member.ofEntry_eq_ok_iff).1 h)
    · exact .items ((readAll_congr fun _ _ => Member.ofDocument_eq_ok_iff).1 h)
    · cases h
  · intro h
    cases h with
    | entries each => exact (readAll_congr fun _ _ => Member.ofEntry_eq_ok_iff).2 each
    | items each => exact (readAll_congr fun _ _ => Member.ofDocument_eq_ok_iff).2 each

theorem Shape.ofEntry_eq_ok_iff {e : Scalar × Document} {s : Shape} :
    ofEntry names e = .ok s ↔ ShapeDeclared names e s := by
  constructor
  · intro h
    refine ⟨Model.name_of_ofEntry h, ?_⟩
    unfold ofEntry at h
    split at h
    · split at h
      · rename_i left
        cases h
        exact .absent left
      · rename_i definition present
        rw [(Document.present?_eq_some_iff.1 present).2]
        split at h
        · rename_i left
          cases h
          exact .bare left
        · rename_i d found
          obtain ⟨members, hMembers, h⟩ := bind_eq_ok_iff.1 h
          cases h
          exact .full found (membersOfDocument_eq_ok_iff.1 hMembers)
      · cases h
    · cases h
  · obtain ⟨key, d⟩ := e
    obtain ⟨name, members⟩ := s
    rintro ⟨rfl, defined⟩
    unfold ofEntry
    cases defined with
    | absent left => simp only [left]
    | @bare definition left =>
      cases definition with
      | nil => rfl
      | cons e rest =>
        have present : (Document.mapping (e :: rest)).present? = some (.mapping (e :: rest)) := rfl
        simp only [present, left]
    | @full definition d _ found each =>
      cases definition with
      | nil => cases found
      | cons e rest =>
        have present : (Document.mapping (e :: rest)).present? = some (.mapping (e :: rest)) := rfl
        simp only [present, found]
        exact bind_eq_ok_iff.2 ⟨members, membersOfDocument_eq_ok_iff.2 each, rfl⟩

/-! ## The reader of operations -/

/-- An operation as it is declared, its positions not yet checked. -/
def Operation.declaration (o : Operation) : OperationDeclaration :=
  { name := o.name, input := o.input.map Int.ofNat, output := o.output.map Int.ofNat,
    kind := o.kind }

namespace OperationDeclaration

theorem referenceOfDocument_eq_ok_iff {operation : String} {reference : Option Document}
    {position : Option Int} :
    referenceOfDocument names operation reference = .ok position ↔
      ∃ i, Refers names reference i ∧ position = i.map Int.ofNat := by
  constructor
  · intro h
    unfold referenceOfDocument at h
    split at h
    · cases h
      exact ⟨none, .absent, rfl⟩
    · cases h
      exact ⟨none, .null, rfl⟩
    · split at h
      · rename_i i found
        cases h
        exact ⟨some i, .name found, rfl⟩
      · cases h
    · cases h
  · rintro ⟨i, refers, rfl⟩
    cases refers with
    | absent => rfl
    | null => rfl
    | name found =>
      unfold referenceOfDocument
      simp only [found]
      rfl

theorem kindOfDocument_eq_ok_iff {operation : String} {kind : Option Document}
    {k : OperationKind} :
    kindOfDocument operation kind = .ok k ↔ TellsKind operation kind k := by
  constructor
  · intro h
    unfold kindOfDocument at h
    split at h
    · cases h
      exact rfl
    · split at h
      · rename_i s
        split at h
        · rename_i found
          cases h
          have named : k.name = s := by simpa using List.find?_some found
          rw [TellsKind, named]
        · cases h
      · cases h
  · intro h
    unfold TellsKind at h
    split at h
    · rw [h]
      rfl
    · subst h
      unfold kindOfDocument
      simp only [OperationKind.ofName?_name]

theorem ofDocument_eq_ok_iff {d : Document} {declared : OperationDeclaration} :
    ofDocument names d = .ok declared ↔
      ∃ o, OperationDeclared names d o ∧ declared = o.declaration := by
  constructor
  · intro h
    unfold ofDocument at h
    split at h
    · rename_i entries
      split at h
      · cases h
      · rename_i name named
        obtain ⟨kind, hKind, h⟩ := bind_eq_ok_iff.1 h
        obtain ⟨input, hInput, h⟩ := bind_eq_ok_iff.1 h
        obtain ⟨output, hOutput, h⟩ := bind_eq_ok_iff.1 h
        cases h
        obtain ⟨i, refersIn, rfl⟩ := referenceOfDocument_eq_ok_iff.1 hInput
        obtain ⟨j, refersOut, rfl⟩ := referenceOfDocument_eq_ok_iff.1 hOutput
        obtain ⟨written, filled⟩ := Document.presentAt?_eq_text_iff.1 named
        exact ⟨{ name, input := i, output := j, kind }, ⟨entries, rfl, written, filled,
          kindOfDocument_eq_ok_iff.1 hKind, refersIn, refersOut⟩, rfl⟩
      · cases h
    · cases h
  · rintro ⟨o, ⟨entries, rfl, written, filled, tells, refersIn, refersOut⟩, rfl⟩
    unfold ofDocument
    simp only [Document.presentAt?_eq_text_iff.2 ⟨written, filled⟩]
    refine bind_eq_ok_iff.2 ⟨o.kind, kindOfDocument_eq_ok_iff.2 tells, ?_⟩
    refine bind_eq_ok_iff.2 ⟨_, referenceOfDocument_eq_ok_iff.2 ⟨_, refersIn, rfl⟩, ?_⟩
    exact bind_eq_ok_iff.2 ⟨_, referenceOfDocument_eq_ok_iff.2 ⟨_, refersOut, rfl⟩, rfl⟩

/-! ## The check of operations -/

theorem checkedIndex_ofNat {size : Nat} {operation : String} {position : Option Nat}
    (inside : ∀ i, position = some i → i < size) :
    checkedIndex size operation (position.map Int.ofNat) = .ok position := by
  cases position with
  | none => rfl
  | some i =>
    have bound : i < size := inside i rfl
    unfold checkedIndex
    simp [bound]

theorem check_declaration {size : Nat} {o : Operation}
    (inside : ∀ r i, o.shapeIndex? r = some i → i < size) : o.declaration.check size = .ok o := by
  refine bind_eq_ok_iff.2 ⟨o.input, checkedIndex_ofNat (inside .input), ?_⟩
  exact bind_eq_ok_iff.2 ⟨o.output, checkedIndex_ofNat (inside .output), rfl⟩

/-- Operations inside a model are accepted as they are if no name is declared twice. -/
theorem checkAll_eq_ok_iff {size : Nat} {seen : List String} {os os' : List Operation}
    (inside : ∀ o ∈ os, ∀ r i, o.shapeIndex? r = some i → i < size) :
    checkAll size seen (os.map Operation.declaration) = .ok os' ↔
      os' = os ∧ (os.map Operation.name).Nodup ∧ ∀ o ∈ os, o.name ∉ seen := by
  -- for any names seen before, since each operation adds its own for those behind it
  induction os generalizing seen os' with
  | nil =>
    rw [List.map_nil, checkAll]
    simp [eq_comm]
  | cons o rest ih =>
    have own : o.declaration.check size = .ok o := check_declaration (inside o List.mem_cons_self)
    have others (x : Operation) (hx : x ∈ rest) := inside x (List.mem_cons_of_mem _ hx)
    have name : o.declaration.name = o.name := rfl
    rw [List.map_cons, checkAll, name, own]
    by_cases known : o.name ∈ seen
    · simp [known]
    · rw [if_neg known]
      show (checkAll size _ _ >>= fun others => .ok (o :: others)) = .ok os' ↔ _
      rw [bind_eq_ok_iff]
      simp only [ih others, Except.ok.injEq, List.map_cons, List.nodup_cons, List.forall_mem_cons]
      simp only [List.mem_cons, not_or, List.mem_map, not_exists, not_and]
      constructor
      · rintro ⟨_, ⟨rfl, once, fresh⟩, rfl⟩
        exact ⟨rfl, ⟨fun x hx => (fresh x hx).1, once⟩, known, fun x hx => (fresh x hx).2⟩
      · rintro ⟨rfl, ⟨apart, once⟩, -, fresh⟩
        exact ⟨rest, ⟨rfl, once, fun x hx => ⟨apart x hx, fresh x hx⟩⟩, rfl⟩

end OperationDeclaration

end Readers

/-! ## The reader of models -/

namespace Model

theorem shapeEntries_eq_ok_iff {entries definitions : List (Scalar × Document)} :
    shapeEntries (presentAt? entries "shapes") = .ok definitions ↔
      ShapesAt entries definitions := by
  unfold shapeEntries ShapesAt
  cases presentAt? entries "shapes" with
  | none => simp [eq_comm]
  | some d => cases d <;> simp [eq_comm]

theorem operationItems_eq_ok_iff {entries : List (Scalar × Document)} {items : List Document} :
    operationItems (presentAt? entries "operations") = .ok items ↔ OperationsAt entries items := by
  unfold operationItems OperationsAt
  cases presentAt? entries "operations" with
  | none => simp [eq_comm]
  | some d => cases d <;> simp [eq_comm]

theorem ofParts_eq_ok_iff {definitions : List (Scalar × Document)} {items : List Document}
    {m : Model} :
    ofParts definitions items = .ok m ↔
      List.Forall₂ (ShapeDeclared m.shapeNames) definitions m.shapes ∧
      List.Forall₂ (OperationDeclared m.shapeNames) items m.operations ∧
      m.shapeNames.Nodup ∧ (m.operations.map Operation.name).Nodup := by
  have shapes {names : List String} {shapes : List Shape} :
      readAll (Shape.ofEntry names) definitions = .ok shapes ↔
        List.Forall₂ (ShapeDeclared names) definitions shapes :=
    readAll_congr fun _ _ => Shape.ofEntry_eq_ok_iff
  have operations {names : List String} {declared : List OperationDeclaration} :
      readAll (OperationDeclaration.ofDocument names) items = .ok declared ↔
        ∃ os, List.Forall₂ (OperationDeclared names) items os ∧
          declared = os.map Operation.declaration :=
    (readAll_congr fun _ _ => OperationDeclaration.ofDocument_eq_ok_iff).trans
      forall₂_exists_map_iff
  have size : m.shapeNames.length = m.shapes.length := List.length_map _
  constructor
  · intro h
    obtain ⟨read, hShapes, h⟩ := bind_eq_ok_iff.1 h
    obtain ⟨declared, hDeclared, h⟩ := bind_eq_ok_iff.1 h
    obtain ⟨once, checked, hChecked, rfl⟩ := ofDeclarations_eq_ok_iff.1 h
    -- the names over which everything was read are those of the shapes that were read
    rw [textKeys_of_readAll hShapes] at hShapes hDeclared
    obtain ⟨os, each, rfl⟩ := operations.1 hDeclared
    have inside := forall_of_forall₂ (fun _ _ h => OperationDeclared.shapeIndex?_lt h) each
    rw [List.length_map] at inside
    obtain ⟨rfl, distinct, -⟩ := (OperationDeclaration.checkAll_eq_ok_iff inside).1 hChecked
    exact ⟨shapes.1 hShapes, each, once, distinct⟩
  · rintro ⟨hShapes, each, once, distinct⟩
    have inside := forall_of_forall₂ (fun _ _ h => OperationDeclared.shapeIndex?_lt h) each
    rw [size] at inside
    have keys : textKeys definitions = m.shapeNames := textKeys_of_readAll (shapes.2 hShapes)
    have checked : OperationDeclaration.checkAll m.shapes.length []
        (m.operations.map Operation.declaration) = .ok m.operations :=
      (OperationDeclaration.checkAll_eq_ok_iff inside).2
        ⟨rfl, distinct, fun _ _ => List.not_mem_nil⟩
    unfold ofParts
    rw [keys]
    refine bind_eq_ok_iff.2 ⟨m.shapes, shapes.2 hShapes, ?_⟩
    refine bind_eq_ok_iff.2 ⟨_, operations.2 ⟨m.operations, each, rfl⟩, ?_⟩
    exact ofDeclarations_eq_ok_iff.2 ⟨once, m.operations, checked, rfl⟩

/-- A document is read as the model that it declares. -/
theorem ofDocument_eq_ok_iff {d : Document} {m : Model} :
    ofDocument d = .ok m ↔ Declares d m := by
  constructor
  · intro h
    cases d with
    | mapping entries =>
      obtain ⟨definitions, hShapes, items, hOperations, parts⟩ :=
        ofDocument_mapping_eq_ok_iff.1 h
      exact ⟨entries, definitions, items, rfl, shapeEntries_eq_ok_iff.1 hShapes,
        operationItems_eq_ok_iff.1 hOperations, ofParts_eq_ok_iff.1 parts⟩
    | scalar s => cases h
    | list items => cases h
  · rintro ⟨entries, definitions, items, rfl, hShapes, hOperations, parts⟩
    exact ofDocument_mapping_eq_ok_iff.2 ⟨definitions, shapeEntries_eq_ok_iff.2 hShapes, items,
      operationItems_eq_ok_iff.2 hOperations, ofParts_eq_ok_iff.2 parts⟩

end Model

end FieldResolution
