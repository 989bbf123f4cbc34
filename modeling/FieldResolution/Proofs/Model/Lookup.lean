import FieldResolution.Proofs.Model.Extension
import FieldResolution.Proofs.Model.Loaded

/-!
# Look-ups that must not fail

The functions of a model take a shape that is missing for one without a name and without members.
Here are the same functions with look-ups that refuse a position at which there is no shape: the
answer is then that position.  In a closed model none of them refuses, so what is taken for a
missing shape is never seen (`strictSignature_eq`, `strictSpell_eq`, `strictLocate_eq`).
-/

namespace FieldResolution

theorem readAll_eq_ok_map {α β ε : Type} {read : α → Except ε β} {f : α → β} {l : List α}
    (h : ∀ a ∈ l, read a = .ok (f a)) : readAll read l = .ok (l.map f) := by
  induction l with
  | nil => rfl
  | cons a rest ih =>
    obtain ⟨first, others⟩ := List.forall_mem_cons.1 h
    rw [readAll, first, ih others]
    rfl

namespace Model

/-! ## The look-ups -/

/-- The shape at a position that must have one. -/
def fetch (m : Model) (i : Nat) : Except Nat Shape :=
  match m.shapes[i]? with
  | some s => .ok s
  | none => .error i

/-- The signature of a type inside the open shapes, every shape on the way fetched. -/
def strictSignatureIn (m : Model) (opened : List Nat) : MemberType → Except Nat Signature
  | .primitive p => .ok (.primitive p)
  | .container c element => (m.strictSignatureIn opened element).map (.container c)
  | .shape i =>
    if hi : i ∈ opened then .ok (.reference (opened.idxOf i + 1))
    else
      match _hs : m.shapes[i]? with
      | none => .error i
      | some s =>
        (readAll (fun x => (m.strictSignatureIn (i :: opened) x.type).map (Prod.mk x.name))
          s.members).map .record
termination_by t => ((m.unopened opened).length, sizeOf t)
decreasing_by
  · exact Prod.Lex.right _ (by simp only [MemberType.container.sizeOf_spec]; omega)
  · exact Prod.Lex.left _ _ (length_unopened_cons_lt (List.getElem?_eq_some_iff.1 _hs).1 hi)

/-- The signature of a type, every shape on the way fetched. -/
def strictSignature (m : Model) (t : MemberType) : Except Nat Signature := m.strictSignatureIn [] t

/-- The spelling of a type, its shape fetched. -/
def strictSpell (m : Model) : MemberType → Except Nat String
  | .primitive p => .ok p.name
  | .shape i => (m.fetch i).map Shape.name
  | .container c element => (m.strictSpell element).map fun inner => c.name ++ "<" ++ inner ++ ">"

/-- The member that a path reaches from a shape, every shape on the way fetched. -/
def strictFollow (m : Model) (s : Shape) : List String → Except Nat (Option Member)
  | [] => .ok none
  | [name] => .ok (s.member? name)
  | name :: next :: rest =>
    match s.member? name with
    | none => .ok none
    | some via =>
      match via.type.shape? with
      | none => .ok none
      | some i => do
        let inner ← m.fetch i
        let reached ← m.strictFollow inner (next :: rest)
        return reached.map fun x => { x with type := MemberType.wrap via.type.layers x.type }

/-- The shape on one side of an operation, fetched. -/
def strictOperationShape (m : Model) (o : Operation) (r : Role) : Except Nat (Option Shape) :=
  match o.shapeIndex? r with
  | none => .ok none
  | some i => (m.fetch i).map some

/-- The member that a path reaches from one side of an operation, every shape fetched. -/
def strictFollowFrom (m : Model) (o : Operation) (path : List String) (r : Role) :
    Except Nat (Option (Role × Member)) := do
  match ← m.strictOperationShape o r with
  | none => return none
  | some s => return (← m.strictFollow s path).map fun x => (r, x)

/-- The member that a path reaches from the output of an operation, or else from its input, every
shape fetched. -/
def strictLocate (m : Model) (o : Operation) (path : List String) :
    Except Nat (Option (Role × Member)) := do
  match ← m.strictFollowFrom o path .output with
  | some found => return some found
  | none => m.strictFollowFrom o path .input

/-! ## Closed models -/

variable {m : Model}

theorem fetch_of_getElem? {i : Nat} {s : Shape} (h : m.shapes[i]? = some s) :
    m.fetch i = .ok s := by
  rw [fetch, h]

theorem exists_fetch {i : Nat} (h : i < m.shapes.length) :
    ∃ s, m.shapes[i]? = some s ∧ m.fetch i = .ok s :=
  ⟨m.shapes[i], List.getElem?_eq_getElem h, fetch_of_getElem? (List.getElem?_eq_getElem h)⟩

theorem strictSpell_eq {t : MemberType} (ht : m.ClosedType t) :
    m.strictSpell t = .ok (m.spell t) := by
  induction t with
  | primitive p => rfl
  | shape i =>
    obtain ⟨s, hs, fetched⟩ := exists_fetch (ht i rfl)
    rw [strictSpell, fetched, spell, MemberType.spell, shapeNames, List.getElem?_map, hs]
    rfl
  | container c element ih =>
    rw [strictSpell, ih ht]
    rfl

namespace Closed

variable (closed : m.Closed)

include closed

theorem strictSignatureIn_eq (opened : List Nat) {t : MemberType} (ht : m.ClosedType t) :
    m.strictSignatureIn opened t = .ok (m.signatureIn opened t) := by
  fun_induction m.signatureIn opened t with
  | case1 opened p => rw [strictSignatureIn]
  | case2 opened c element ih =>
    rw [strictSignatureIn, ih ht]
    rfl
  | case3 opened i hi => rw [strictSignatureIn, dif_pos hi]
  | case4 opened i hi missing =>
    have inside : i < m.shapes.length := ht i rfl
    rw [List.getElem?_eq_getElem inside] at missing
    cases missing
  | case5 opened i hi s hs ih =>
    -- the members of a shape of a closed model are closed, so no look-up below them fails
    have members : readAll (fun x => (m.strictSignatureIn (i :: opened) x.type).map
          (Prod.mk x.name)) s.members =
        .ok (s.members.map fun x => (x.name, m.signatureIn (i :: opened) x.type)) := by
      refine readAll_eq_ok_map fun x hx => ?_
      rw [ih x (closed.1 s (List.mem_of_getElem? hs) x hx)]
      rfl
    rw [strictSignatureIn, dif_neg hi]
    split
    · rename_i missing
      cases missing.symm.trans hs
    · rename_i s' hs'
      obtain rfl := Option.some.inj (hs'.symm.trans hs)
      rw [members]
      rfl

theorem strictSignature_eq {t : MemberType} (ht : m.ClosedType t) :
    m.strictSignature t = .ok (m.signature t) := closed.strictSignatureIn_eq [] ht

theorem strictFollow_eq {s : Shape} (hs : s ∈ m.shapes) (path : List String) :
    m.strictFollow s path = .ok (m.follow s path) := by
  fun_induction m.follow s path with
  | case1 s => rfl
  | case2 s name => rfl
  | case3 s name next rest hnone => rw [strictFollow, hnone]
  | case4 s name next rest via hvia hnone =>
    rw [strictFollow, hvia]
    cases hi : via.type.shape? with
    | none => simp only [hi]
    | some i =>
      have bound : i < m.shapes.length := closed.1 s hs via (List.mem_of_find?_eq_some hvia) i hi
      rw [shapeUnder?, hi, Option.bind_some, List.getElem?_eq_getElem bound] at hnone
      cases hnone
  | case5 s name next rest via hvia inner hinner ih =>
    obtain ⟨i, hi, found⟩ := Option.bind_eq_some_iff.1 hinner
    rw [strictFollow, hvia]
    simp only [hi, fetch_of_getElem? found]
    show (m.strictFollow inner (next :: rest) >>= _) = _
    rw [ih (List.mem_of_getElem? found)]
    rfl

variable {o : Operation} (ho : o ∈ m.operations)

include ho

theorem strictOperationShape_eq (r : Role) :
    m.strictOperationShape o r = .ok (m.operationShape? o r) := by
  unfold strictOperationShape operationShape?
  cases hi : o.shapeIndex? r with
  | none => rfl
  | some i =>
    obtain ⟨s, hs, fetched⟩ := exists_fetch (closed.2 o ho r i hi)
    simp only [fetched, Option.bind_some, hs]
    rfl

theorem strictFollowFrom_eq (path : List String) (r : Role) :
    m.strictFollowFrom o path r = .ok (m.followFrom o path r) := by
  unfold strictFollowFrom followFrom
  rw [closed.strictOperationShape_eq ho]
  cases hs : m.operationShape? o r with
  | none => rfl
  | some s =>
    show (m.strictFollow s path >>= _) = _
    rw [closed.strictFollow_eq (mem_shapes_of_operationShape? hs)]
    rfl

theorem strictLocate_eq (path : List String) :
    m.strictLocate o path = .ok (m.locate o path) := by
  unfold strictLocate locate
  rw [closed.strictFollowFrom_eq ho, closed.strictFollowFrom_eq ho]
  cases m.followFrom o path .output <;> rfl

end Closed

end Model

end FieldResolution
