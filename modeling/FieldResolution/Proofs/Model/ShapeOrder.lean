import FieldResolution.Model.OfDocument
import FieldResolution.Proofs.Model.Renaming
import FieldResolution.Proofs.Model.Spelling
import FieldResolution.Proofs.Resolution.Settle
import Mathlib.Data.List.Perm.Basic

/-!
# The order of shapes

The entries under `shapes` give every shape its position, and nothing else depends on their order.
`renumber` sends the position of a name in one order to its position in another; what is read over
the names in one order is what is read over the other, renamed (`parseChars_rename`,
`ofEntry_rename`).  So two orders are accepted alike, and the models that come of them differ by a
renaming (`exists_renaming_of_perm`).
-/

namespace FieldResolution

/-! ## Positions of names -/

/-- Where the name at a position of one list stands in another. -/
def renumber (names names' : List String) (i : Nat) : Nat :=
  ((names[i]?).bind (lastIndex? names')).getD i

theorem lastIndex?_eq_some_iff {names : List String} (hn : names.Nodup) {s : String} {i : Nat} :
    lastIndex? names s = some i ↔ names[i]? = some s := by
  refine ⟨getElem?_of_lastIndex?, fun h => ?_⟩
  have hi : i < names.length := (List.getElem?_eq_some_iff.1 h).1
  cases hs : lastIndex? names s with
  | none => exact absurd (List.mem_of_getElem? h) (lastIndex?_eq_none_iff.1 hs)
  | some j =>
    have hj : names[i]? = names[j]? := h.trans (getElem?_of_lastIndex? hs).symm
    rw [(List.getElem?_inj hi hn).1 hj]

section Renumber

variable {names names' : List String} (p : names.Perm names')

include p

theorem getElem?_renumber (i : Nat) : names'[renumber names names' i]? = names[i]? := by
  unfold renumber
  cases h : names[i]? with
  | none =>
    have short : names'.length ≤ i := p.length_eq ▸ List.getElem?_eq_none_iff.1 h
    exact List.getElem?_eq_none_iff.2 short
  | some s =>
    have hs : s ∈ names' := p.subset (List.mem_of_getElem? h)
    rw [Option.bind_some]
    cases hj : lastIndex? names' s with
    | none => exact absurd hs (lastIndex?_eq_none_iff.1 hj)
    | some j => exact getElem?_of_lastIndex? hj

theorem renumber_injective (hn : names.Nodup) : Function.Injective (renumber names names') := by
  intro i j h
  have same : names[i]? = names[j]? := by
    rw [← getElem?_renumber p i, ← getElem?_renumber p j, h]
  by_cases hi : i < names.length
  · exact (List.getElem?_inj hi hn).1 same
  · have hnone : names[i]? = none := List.getElem?_eq_none_iff.2 (Nat.not_lt.1 hi)
    have hnone' : names[j]? = none := same ▸ hnone
    simpa [renumber, hnone, hnone'] using h

theorem lastIndex?_renumber (hn : names.Nodup) (s : String) :
    lastIndex? names' s = (lastIndex? names s).map (renumber names names') := by
  cases h : lastIndex? names s with
  | none =>
    have hs : s ∉ names' := fun hs => lastIndex?_eq_none_iff.1 h (p.symm.subset hs)
    exact lastIndex?_eq_none_iff.2 hs
  | some i =>
    refine (lastIndex?_eq_some_iff (p.nodup_iff.1 hn)).2 ?_
    rw [getElem?_renumber p, getElem?_of_lastIndex? h]

end Renumber

/-! ## Reading over renamed positions -/

/-- A position that has not been checked, renamed if there is such a position. -/
def renamePosition (σ : Nat → Nat) : Int → Int
  | .ofNat i => .ofNat (σ i)
  | .negSucc i => .negSucc i

def OperationDeclaration.rename (σ : Nat → Nat) (d : OperationDeclaration) :
    OperationDeclaration :=
  { d with input := d.input.map (renamePosition σ), output := d.output.map (renamePosition σ) }

theorem readAll_map {α β γ ε : Type} {read : α → Except ε β} {read' : α → Except ε γ} {f : β → γ}
    (h : ∀ a, read' a = (read a).map f) (l : List α) :
    readAll read' l = (readAll read l).map (List.map f) := by
  induction l with
  | nil => rfl
  | cons a rest ih =>
    rw [readAll, readAll, h, ih]
    cases read a with
    | error e => rfl
    | ok b => cases readAll read rest <;> rfl

theorem readAll_cons_eq_ok_iff {α β ε : Type} {read : α → Except ε β} {a : α} {l : List α}
    {bs : List β} :
    readAll read (a :: l) = .ok bs ↔
      ∃ b, read a = .ok b ∧ ∃ rest, readAll read l = .ok rest ∧ b :: rest = bs := by
  show (read a >>= fun b => readAll read l >>= fun rest => .ok (b :: rest)) = .ok bs ↔ _
  simp only [bind_eq_ok_iff, Except.ok.injEq]

/-- The entries of a list may be read in any order. -/
theorem exists_readAll_of_perm {α β ε : Type} {read : α → Except ε β} {l l' : List α}
    (p : l.Perm l') {bs : List β} (h : readAll read l = .ok bs) :
    ∃ bs', readAll read l' = .ok bs' ∧ bs.Perm bs' := by
  induction p generalizing bs with
  | nil => exact ⟨bs, h, .refl _⟩
  | cons a _ ih =>
    obtain ⟨b, hb, rest, hrest, rfl⟩ := readAll_cons_eq_ok_iff.1 h
    obtain ⟨rest', hrest', q⟩ := ih hrest
    exact ⟨b :: rest', readAll_cons_eq_ok_iff.2 ⟨b, hb, rest', hrest', rfl⟩, q.cons b⟩
  | swap a a' l =>
    obtain ⟨b', hb', _, h', rfl⟩ := readAll_cons_eq_ok_iff.1 h
    obtain ⟨b, hb, rest, hrest, rfl⟩ := readAll_cons_eq_ok_iff.1 h'
    have inner : readAll read (a' :: l) = .ok (b' :: rest) :=
      readAll_cons_eq_ok_iff.2 ⟨b', hb', rest, hrest, rfl⟩
    exact ⟨b :: b' :: rest, readAll_cons_eq_ok_iff.2 ⟨b, hb, _, inner, rfl⟩, .swap b b' rest⟩
  | trans _ _ ih ih' =>
    obtain ⟨bs', h', q⟩ := ih h
    obtain ⟨bs'', h'', q'⟩ := ih' h'
    exact ⟨bs'', h'', q.trans q'⟩

section Reading

variable {names names' : List String} {σ : Nat → Nat}
  (moved : ∀ s, lastIndex? names' s = (lastIndex? names s).map σ)

include moved

theorem MemberType.ofName?_rename (s : String) :
    ofName? names' s = (ofName? names s).map (rename σ) := by
  unfold ofName?
  cases Primitive.ofName? s with
  | some p => rfl
  | none =>
    dsimp only
    rw [moved, Option.map_map, Option.map_map]
    rfl

theorem MemberType.parseChars_rename (s : List Char) :
    parseChars names' s = (parseChars names s).map (rename σ) := by
  fun_induction parseChars names s with
  | case1 s c inner h _ _ ih =>
    rw [parseChars_of_container h, ih]
    cases parseChars names inner <;> rfl
  | case2 s h name t ht =>
    have named : ofName? names' name = some (t.rename σ) := by
      rw [ofName?_rename moved, ht]
      rfl
    rw [parseChars_of_no_container h, named]
    rfl
  | case3 s h name hnone =>
    have unnamed : ofName? names' name = none := by
      rw [ofName?_rename moved, hnone]
      rfl
    rw [parseChars_of_no_container h, unnamed]
    rfl

theorem Member.ofParts_rename (shape : String) (name type : Document) (required : Bool) :
    ofParts names' shape name type required =
      (ofParts names shape name type required).map (rename σ) := by
  unfold ofParts
  split
  · split
    · rename_i spelling
      have parsed : MemberType.parse names' spelling =
          (MemberType.parse names spelling).map (MemberType.rename σ) :=
        MemberType.parseChars_rename moved _
      rw [parsed]
      cases MemberType.parse names spelling <;> rfl
    · rfl
  · rfl

theorem Member.ofDocument_rename (shape : String) (d : Document) :
    ofDocument names' shape d = (ofDocument names shape d).map (rename σ) := by
  unfold ofDocument
  split
  · split
    · exact ofParts_rename moved _ _ _ _
    · rfl
  · rfl

theorem Shape.membersOfDocument_rename (shape : String) (d : Document) :
    membersOfDocument names' shape d =
      (membersOfDocument names shape d).map (List.map (Member.rename σ)) := by
  unfold membersOfDocument
  split
  · exact readAll_map (fun e => Member.ofParts_rename moved _ _ _ _) _
  · exact readAll_map (fun d => Member.ofDocument_rename moved _ d) _
  · rfl

theorem Shape.ofEntry_rename (e : Scalar × Document) :
    ofEntry names' e = (ofEntry names e).map (rename σ) := by
  unfold ofEntry
  split
  · split
    · rfl
    · split
      · rfl
      · rename_i name _ _ _ _ _ members _
        rw [membersOfDocument_rename moved]
        cases membersOfDocument names name members <;> rfl
    · rfl
  · rfl

theorem OperationDeclaration.referenceOfDocument_rename (operation : String)
    (reference : Option Document) :
    referenceOfDocument names' operation reference =
      (referenceOfDocument names operation reference).map (Option.map (renamePosition σ)) := by
  unfold referenceOfDocument
  split
  · rfl
  · rfl
  · rw [moved]
    cases lastIndex? names _ <;> rfl
  · rfl

theorem OperationDeclaration.ofDocument_rename (d : Document) :
    ofDocument names' d = (ofDocument names d).map (rename σ) := by
  unfold ofDocument
  split
  · split
    · rfl
    · rename_i entries _ name _
      simp only [referenceOfDocument_rename moved]
      cases kindOfDocument name (Document.presentAt? entries "type") with
      | error e => rfl
      | ok kind =>
        cases referenceOfDocument names name (Document.lookup entries "input") with
        | error e => rfl
        | ok input =>
          cases referenceOfDocument names name (Document.lookup entries "output") <;> rfl
    · rfl
  · rfl

end Reading

/-! ## Checking renamed operations -/

section Checking

variable {size : Nat} {σ : Nat → Nat} (inside : ∀ i < size, σ i < size)

include inside

theorem checkedIndex_rename {operation : String} {position : Option Int} {index : Option Nat}
    (h : checkedIndex size operation position = .ok index) :
    checkedIndex size operation (position.map (renamePosition σ)) = .ok (index.map σ) := by
  cases position with
  | none =>
    cases h
    rfl
  | some i =>
    unfold checkedIndex at h
    dsimp only at h
    split_ifs at h with bounds
    cases h
    obtain ⟨k, rfl⟩ := Int.eq_ofNat_of_zero_le bounds.1
    have bound : σ k < size := inside k (by omega)
    have bounds' : 0 ≤ (σ k : Int) ∧ (σ k : Int) < size := by omega
    show checkedIndex size operation (some (σ k : Int)) = .ok (some (σ k))
    unfold checkedIndex
    dsimp only
    rw [if_pos bounds', Int.toNat_natCast]

theorem OperationDeclaration.check_rename {d : OperationDeclaration} {o : Operation}
    (h : d.check size = .ok o) : (d.rename σ).check size = .ok (o.rename σ) := by
  obtain ⟨input, hInput, h⟩ := bind_eq_ok_iff.1 h
  obtain ⟨output, hOutput, h⟩ := bind_eq_ok_iff.1 h
  cases h
  refine bind_eq_ok_iff.2 ⟨_, checkedIndex_rename inside hInput, ?_⟩
  exact bind_eq_ok_iff.2 ⟨_, checkedIndex_rename inside hOutput, rfl⟩

theorem OperationDeclaration.checkAll_rename {seen : List String}
    {ds : List OperationDeclaration} {os : List Operation}
    (h : checkAll size seen ds = .ok os) :
    checkAll size seen (ds.map (rename σ)) = .ok (os.map (Operation.rename σ)) := by
  induction ds generalizing seen os with
  | nil =>
    cases h
    rfl
  | cons d rest ih =>
    unfold checkAll at h
    split_ifs at h with known
    obtain ⟨o, ho, h⟩ := bind_eq_ok_iff.1 h
    obtain ⟨others, hOthers, h⟩ := bind_eq_ok_iff.1 h
    cases h
    have fresh : (d.rename σ).name ∉ seen := known
    rw [List.map_cons, checkAll, if_neg fresh]
    refine bind_eq_ok_iff.2 ⟨_, check_rename inside ho, ?_⟩
    exact bind_eq_ok_iff.2 ⟨_, ih hOthers, rfl⟩

end Checking

/-! ## Models -/

namespace Model

theorem ofDeclarations_eq_ok_iff {d : Declarations} {m : Model} :
    ofDeclarations d = .ok m ↔ (d.shapes.map Shape.name).Nodup ∧
      ∃ operations, OperationDeclaration.checkAll d.shapes.length [] d.operations = .ok operations ∧
        m = { shapes := d.shapes, operations } := by
  unfold ofDeclarations
  cases h : firstRepeated? [] (d.shapes.map Shape.name) with
  | some name =>
    have repeated : ¬ (d.shapes.map Shape.name).Nodup := by
      intro nodup
      rw [firstRepeated?_eq_none_iff.2 ⟨nodup, fun _ _ => List.not_mem_nil⟩] at h
      cases h
    simp [repeated]
  | none =>
    have nodup : (d.shapes.map Shape.name).Nodup := (firstRepeated?_eq_none_iff.1 h).1
    dsimp only
    rw [bind_eq_ok_iff]
    simp only [nodup, true_and]
    exact exists_congr fun operations => and_congr_right fun _ =>
      ⟨fun h => (Except.ok.inj h).symm, fun h => congrArg Except.ok h.symm⟩

/-- The model of the entries under `shapes` and the items under `operations`. -/
def ofParts (definitions : List (Scalar × Document)) (items : List Document) :
    Except ModelError Model := do
  let shapes ← readAll (Shape.ofEntry (textKeys definitions)) definitions
  let operations ← readAll (OperationDeclaration.ofDocument (textKeys definitions)) items
  ofDeclarations { shapes, operations }

theorem name_of_ofEntry {names : List String} {e : Scalar × Document} {s : Shape}
    (h : Shape.ofEntry names e = .ok s) : e.1 = .text s.name := by
  unfold Shape.ofEntry at h
  split at h
  · rename_i name hname
    split at h
    · cases h
      exact hname
    · split at h
      · cases h
        exact hname
      · obtain ⟨members, -, h⟩ := bind_eq_ok_iff.1 h
        cases h
        exact hname
    · cases h
  · cases h

theorem textKeys_of_readAll {names : List String} {definitions : List (Scalar × Document)}
    {shapes : List Shape} (h : readAll (Shape.ofEntry names) definitions = .ok shapes) :
    textKeys definitions = shapes.map Shape.name := by
  induction definitions generalizing shapes with
  | nil =>
    cases h
    rfl
  | cons e rest ih =>
    obtain ⟨s, hs, others, hOthers, rfl⟩ := readAll_cons_eq_ok_iff.1 h
    rw [List.map_cons, ← ih hOthers]
    unfold textKeys
    rw [List.filterMap_cons, name_of_ofEntry hs]

/-- Shapes that stand where their names stand are the same, as no name stands twice. -/
theorem getElem?_of_names {shapes shapes' : List Shape} {σ : Nat → Nat}
    (q : (shapes.map (Shape.rename σ)).Perm shapes') (nodup : (shapes'.map Shape.name).Nodup)
    (stand : ∀ i, (shapes'.map Shape.name)[σ i]? = (shapes.map Shape.name)[i]?) (i : Nat) :
    shapes'[σ i]? = shapes[i]?.map (Shape.rename σ) := by
  have place := stand i
  rw [List.getElem?_map, List.getElem?_map] at place
  cases h : shapes[i]? with
  | none =>
    rw [h] at place
    exact Option.map_eq_none_iff.1 place
  | some s =>
    rw [h] at place
    obtain ⟨s', h', name⟩ := Option.map_eq_some_iff.1 place
    have old : s.rename σ ∈ shapes' := q.subset (List.mem_map_of_mem (List.mem_of_getElem? h))
    have same : s' = s.rename σ :=
      List.inj_on_of_nodup_map nodup (List.mem_of_getElem? h') old name
    rw [h', same]
    rfl

theorem exists_renaming_ofParts {definitions definitions' : List (Scalar × Document)}
    (p : definitions.Perm definitions') {items : List Document} {m : Model}
    (h : ofParts definitions items = .ok m) :
    ∃ σ m', ofParts definitions' items = .ok m' ∧ Renaming σ m m' := by
  obtain ⟨shapes, hShapes, h⟩ := bind_eq_ok_iff.1 h
  obtain ⟨declared, hDeclared, h⟩ := bind_eq_ok_iff.1 h
  obtain ⟨nodup, operations, hOperations, rfl⟩ := ofDeclarations_eq_ok_iff.1 h
  have keys : textKeys definitions = shapes.map Shape.name := textKeys_of_readAll hShapes
  have reordered : (textKeys definitions).Perm (textKeys definitions') := p.filterMap _
  let σ := renumber (textKeys definitions) (textKeys definitions')
  have moved (s : String) : lastIndex? (textKeys definitions') s =
      (lastIndex? (textKeys definitions) s).map σ :=
    lastIndex?_renumber reordered (keys ▸ nodup) s
  -- read the shapes over the other names first, then in the other order
  have reread : readAll (Shape.ofEntry (textKeys definitions')) definitions =
      .ok (shapes.map (Shape.rename σ)) := by
    rw [readAll_map (Shape.ofEntry_rename moved), hShapes]
    rfl
  obtain ⟨shapes', hShapes', q⟩ := exists_readAll_of_perm p reread
  have hDeclared' : readAll (OperationDeclaration.ofDocument (textKeys definitions')) items =
      .ok (declared.map (OperationDeclaration.rename σ)) := by
    rw [readAll_map (OperationDeclaration.ofDocument_rename moved), hDeclared]
    rfl
  have keys' : textKeys definitions' = shapes'.map Shape.name := textKeys_of_readAll hShapes'
  have stand (i : Nat) : (shapes'.map Shape.name)[σ i]? = (shapes.map Shape.name)[i]? := by
    rw [← keys', ← keys]
    exact getElem?_renumber reordered i
  have nodup' : (shapes'.map Shape.name).Nodup := by
    rw [← keys', ← reordered.nodup_iff, keys]
    exact nodup
  have size : shapes'.length = shapes.length := by
    rw [← q.length_eq, List.length_map]
  have inside : ∀ i < shapes.length, σ i < shapes.length := by
    intro i hi
    have placed : (shapes.map Shape.name)[i]? = some shapes[i].name := by
      rw [List.getElem?_map, List.getElem?_eq_getElem hi]
      rfl
    have bound := (List.getElem?_eq_some_iff.1 ((stand i).trans placed)).1
    rwa [List.length_map, size] at bound
  have hOperations' : OperationDeclaration.checkAll shapes'.length []
      (declared.map (OperationDeclaration.rename σ)) =
        .ok (operations.map (Operation.rename σ)) := by
    rw [size]
    exact OperationDeclaration.checkAll_rename inside hOperations
  refine ⟨σ, { shapes := shapes', operations := operations.map (Operation.rename σ) }, ?_, ?_⟩
  · refine bind_eq_ok_iff.2 ⟨shapes', hShapes', bind_eq_ok_iff.2 ⟨_, hDeclared', ?_⟩⟩
    exact ofDeclarations_eq_ok_iff.2 ⟨nodup', _, hOperations', rfl⟩
  · exact
      { injective := renumber_injective reordered (keys ▸ nodup)
        shapes := getElem?_of_names q nodup' stand
        operations := rfl }

end Model

/-! ## Documents -/

/-- The entries of a document that has the given definitions under `shapes`. -/
def withShapes (before definitions after : List (Scalar × Document)) :
    List (Scalar × Document) :=
  before ++ (.text "shapes", .mapping definitions) :: after

section Documents

variable {before after definitions definitions' : List (Scalar × Document)}

theorem lookup_withShapes (before definitions after : List (Scalar × Document)) (key : String) :
    Document.lookup (withShapes before definitions after) key =
      (Document.lookup before key).or
        (if "shapes" = key then some (.mapping definitions) else Document.lookup after key) := by
  unfold withShapes
  induction before with
  | nil =>
    rw [List.nil_append, Document.lookup_cons]
    simp only [Scalar.text.injEq]
    rfl
  | cons e rest ih =>
    rw [List.cons_append, Document.lookup_cons, Document.lookup_cons, ih]
    split_ifs <;> rfl

theorem presentAt?_operations (before definitions definitions' after : List (Scalar × Document)) :
    Document.presentAt? (withShapes before definitions after) "operations" =
      Document.presentAt? (withShapes before definitions' after) "operations" := by
  have other : "shapes" ≠ "operations" := by decide
  unfold Document.presentAt?
  rw [lookup_withShapes, lookup_withShapes, if_neg other, if_neg other]

/-- What is read under `shapes` is in another order, or was found further in front. -/
theorem exists_shapeEntries_of_perm (p : definitions.Perm definitions')
    {found : List (Scalar × Document)}
    (h : shapeEntries (Document.presentAt? (withShapes before definitions after) "shapes") =
      .ok found) :
    ∃ found', found.Perm found' ∧
      shapeEntries (Document.presentAt? (withShapes before definitions' after) "shapes") =
        .ok found' := by
  have read (ds : List (Scalar × Document)) :
      shapeEntries (Document.present? (.mapping ds)) = .ok ds := by cases ds <;> rfl
  unfold Document.presentAt? at h ⊢
  rw [lookup_withShapes, if_pos rfl] at h ⊢
  cases hfront : Document.lookup before "shapes" with
  | some d =>
    rw [hfront] at h
    exact ⟨found, .refl _, h⟩
  | none =>
    rw [hfront] at h
    cases (read definitions).symm.trans h
    exact ⟨definitions', p, read definitions'⟩

namespace Model

theorem ofDocument_mapping_eq_ok_iff {entries : List (Scalar × Document)} {m : Model} :
    ofDocument (.mapping entries) = .ok m ↔
      ∃ definitions, shapeEntries (Document.presentAt? entries "shapes") = .ok definitions ∧
        ∃ items, operationItems (Document.presentAt? entries "operations") = .ok items ∧
          ofParts definitions items = .ok m := by
  unfold ofDocument Declarations.ofDocument ofParts
  simp only [bind_eq_ok_iff, bind_assoc, pure_bind]

/-- Two orders of the shapes of a document give models that differ by a renaming. -/
theorem exists_renaming_of_perm (p : definitions.Perm definitions') {m : Model}
    (h : ofDocument (.mapping (withShapes before definitions after)) = .ok m) :
    ∃ σ m', ofDocument (.mapping (withShapes before definitions' after)) = .ok m' ∧
      Renaming σ m m' := by
  obtain ⟨found, hFound, items, hItems, hm⟩ := ofDocument_mapping_eq_ok_iff.1 h
  obtain ⟨found', reordered, hFound'⟩ := exists_shapeEntries_of_perm p hFound
  obtain ⟨σ, m', hm', moved⟩ := exists_renaming_ofParts reordered hm
  rw [presentAt?_operations before definitions definitions' after] at hItems
  exact ⟨σ, m', ofDocument_mapping_eq_ok_iff.2 ⟨found', hFound', items, hItems, hm'⟩, moved⟩

end Model

end Documents

end FieldResolution
