import FieldResolution.Proofs.Model.Extension
import FieldResolution.Proofs.Model.Loaded
import FieldResolution.Proofs.Model.Structures
import Mathlib.Data.List.Perm.Subperm

/-!
# The scope of a signature

`Expands` says by rules what a type becomes inside the shapes that are open.  In a closed model the
rules come to an end for every type of the model, and the signature is all they end in
(`expands_iff`).  `Visits` follows the types of the model and the nodes of a signature side by side,
and notes which shape each record on the way stands for; it comes to every node (`lies_iff`).  No
shape is open twice on the way (`Visits.nodup`), so no more records are nested than there are shapes
(`Visits.length_le`), and a reference leads to the record of the very shape that it stands for
(`Visits.reference`).
-/

namespace FieldResolution

/-- A node of a tree, and the records on the way to it, innermost first. -/
inductive Signature.Lies (whole : Signature) : List Signature → Signature → Prop
  | root : Lies whole [] whole
  | element {above : List Signature} {c : Container} {node : Signature}
      (around : Lies whole above (.container c node)) : Lies whole above node
  | member {above : List Signature} {members : List (String × Signature)} {name : String}
      {node : Signature} (around : Lies whole above (.record members))
      (listed : (name, node) ∈ members) : Lies whole (.record members :: above) node

namespace Model

/-- What a type becomes inside the open shapes, innermost first.  A shape that is open becomes a
reference, which counts the open shapes up to it. -/
inductive Expands (m : Model) : List Nat → MemberType → Signature → Prop
  | primitive {opened : List Nat} {p : Primitive} : Expands m opened (.primitive p) (.primitive p)
  | container {opened : List Nat} {c : Container} {t : MemberType} {s : Signature}
      (element : Expands m opened t s) : Expands m opened (.container c t) (.container c s)
  | reference {inner outer : List Nat} {i : Nat} (first : i ∉ inner) :
      Expands m (inner ++ i :: outer) (.shape i) (.reference (inner.length + 1))
  | record {opened : List Nat} {i : Nat} {shape : Shape} {become : Member → Signature}
      (fresh : i ∉ opened) (found : m.shapes[i]? = some shape)
      (members : ∀ x ∈ shape.members, Expands m (i :: opened) x.type (become x)) :
      Expands m opened (.shape i) (.record (shape.members.map fun x => (x.name, become x)))

/-- A type on the way through an expansion and the node that it becomes, below the open shapes,
innermost first, each with the record that it becomes. -/
inductive Visits (m : Model) (root : MemberType) :
    List (Nat × Signature) → MemberType → Signature → Prop
  | root : Visits m root [] root (m.signature root)
  | element {frames : List (Nat × Signature)} {c : Container} {t : MemberType} {node : Signature}
      (around : Visits m root frames (.container c t) (.container c node)) :
      Visits m root frames t node
  | member {frames : List (Nat × Signature)} {i j : Nat} {members : List (String × Signature)}
      {x : Member} {name : String} {node : Signature}
      (around : Visits m root frames (.shape i) (.record members))
      (declared : (m.membersAt i)[j]? = some x) (listed : members[j]? = some (name, node)) :
      Visits m root ((i, .record members) :: frames) x.type node

variable {m : Model} {opened : List Nat} {t : MemberType}

/-! ## The nodes of a signature -/

theorem idxOf_append_cons {inner outer : List Nat} {i : Nat} (first : i ∉ inner) :
    (inner ++ i :: outer).idxOf i = inner.length := by
  rw [List.idxOf_append_of_notMem first, List.idxOf_cons_self, Nat.add_zero]

theorem signatureIn_eq_container {c : Container} {s : Signature}
    (h : m.signatureIn opened t = .container c s) :
    ∃ element, t = .container c element ∧ m.signatureIn opened element = s := by
  cases t with
  | primitive p =>
    rw [signatureIn_primitive] at h
    cases h
  | container d element =>
    rw [signatureIn_container] at h
    cases h
    exact ⟨element, rfl, rfl⟩
  | shape i =>
    by_cases hi : i ∈ opened
    · rw [signatureIn_shape_of_mem hi] at h
      cases h
    · rw [signatureIn_shape_of_not_mem hi] at h
      cases h

theorem signatureIn_eq_record {members : List (String × Signature)}
    (h : m.signatureIn opened t = .record members) :
    ∃ i, t = .shape i ∧ i ∉ opened ∧
      members = (m.membersAt i).map fun x => (x.name, m.signatureIn (i :: opened) x.type) := by
  cases t with
  | primitive p =>
    rw [signatureIn_primitive] at h
    cases h
  | container c element =>
    rw [signatureIn_container] at h
    cases h
  | shape i =>
    by_cases hi : i ∈ opened
    · rw [signatureIn_shape_of_mem hi] at h
      cases h
    · rw [signatureIn_shape_of_not_mem hi] at h
      cases h
      exact ⟨i, rfl, hi, rfl⟩

theorem signatureIn_eq_reference {k : Nat} (h : m.signatureIn opened t = .reference k) :
    ∃ i inner outer, t = .shape i ∧ opened = inner ++ i :: outer ∧ k = inner.length + 1 := by
  cases t with
  | primitive p =>
    rw [signatureIn_primitive] at h
    cases h
  | container c element =>
    rw [signatureIn_container] at h
    cases h
  | shape i =>
    by_cases hi : i ∈ opened
    · obtain ⟨inner, outer, rfl, first⟩ := List.eq_append_cons_of_mem hi
      rw [signatureIn_shape_of_mem hi, idxOf_append_cons first] at h
      cases h
      exact ⟨i, inner, outer, rfl, rfl, rfl⟩
    · rw [signatureIn_shape_of_not_mem hi] at h
      cases h

/-! ## Expansions come to an end -/

theorem Expands.eq_signatureIn {s : Signature} (h : m.Expands opened t s) :
    s = m.signatureIn opened t := by
  induction h with
  | primitive => rw [signatureIn_primitive]
  | container _ ih => rw [signatureIn_container, ← ih]
  | reference first =>
    rw [signatureIn_shape_of_mem List.mem_append_cons_self, idxOf_append_cons first]
  | @record opened i shape become fresh found _ ih =>
    have members : m.membersAt i = shape.members := by simp [membersAt, found]
    rw [signatureIn_shape_of_not_mem fresh, members]
    refine congrArg Signature.record (List.map_congr_left fun x hx => ?_)
    rw [ih x hx]

/-- By induction on the signature: a shape that is opened leaves fewer to be opened. -/
theorem Closed.expands_signatureIn (closed : m.Closed) (opened : List Nat) {t : MemberType}
    (typed : m.ClosedType t) : m.Expands opened t (m.signatureIn opened t) := by
  fun_induction m.signatureIn opened t with
  | case1 opened p => exact .primitive
  | case2 opened c element ih => exact .container (ih typed)
  | case3 opened i hi =>
    obtain ⟨inner, outer, rfl, first⟩ := List.eq_append_cons_of_mem hi
    rw [idxOf_append_cons first]
    exact .reference first
  | case4 opened i hi hnone =>
    have inside : i < m.shapes.length := typed i rfl
    rw [List.getElem?_eq_none_iff] at hnone
    omega
  | case5 opened i hi shape hsome ih =>
    refine .record hi hsome fun x hx => ih x ?_
    exact closed.1 shape (List.mem_of_getElem? hsome) x hx

/-- The rules end in the signature and in nothing else. -/
theorem Closed.expands_iff (closed : m.Closed) (typed : m.ClosedType t) {s : Signature} :
    m.Expands opened t s ↔ s = m.signatureIn opened t := by
  refine ⟨Expands.eq_signatureIn, ?_⟩
  rintro rfl
  exact closed.expands_signatureIn opened typed

/-! ## The way through an expansion -/

section Visits

variable {root : MemberType} {frames : List (Nat × Signature)} {node : Signature}

theorem Visits.signatureIn_eq (h : m.Visits root frames t node) :
    m.signatureIn (frames.map Prod.fst) t = node := by
  induction h with
  | root => rfl
  | element _ ih =>
    rw [signatureIn_container] at ih
    exact (Signature.container.inj ih).2
  | @member frames i j members x name node _ declared listed ih =>
    obtain ⟨k, same, -, rfl⟩ := signatureIn_eq_record ih
    cases same
    rw [List.getElem?_map, declared] at listed
    exact congrArg Prod.snd (Option.some.inj listed)

/-- The shape of each record on the way was visited on the way to what is below it. -/
theorem Visits.of_suffix (h : m.Visits root frames t node) {outer : List (Nat × Signature)}
    {i : Nat} {r : Signature} (part : (i, r) :: outer <:+ frames) :
    m.Visits root outer (.shape i) r := by
  induction h with
  | root =>
    rw [List.suffix_nil] at part
    cases part
  | element _ ih => exact ih part
  | member around _ _ ih =>
    obtain here | further := List.suffix_cons_iff.1 part
    · cases here
      exact around
    · exact ih further

/-- No shape is opened inside itself. -/
theorem Visits.nodup (h : m.Visits root frames t node) : (frames.map Prod.fst).Nodup := by
  induction h with
  | root => exact List.nodup_nil
  | element _ ih => exact ih
  | member around _ _ ih =>
    obtain ⟨k, same, fresh, -⟩ := signatureIn_eq_record around.signatureIn_eq
    cases same
    exact List.nodup_cons.2 ⟨fresh, ih⟩

theorem Visits.closedType (h : m.Visits root frames t node) (closed : m.Closed)
    (typed : m.ClosedType root) : m.ClosedType t := by
  induction h with
  | root => exact typed
  | element _ ih => exact ih
  | member _ declared _ _ =>
    exact closed.closedType_of_mem_membersAt (List.mem_of_getElem? declared)

theorem Visits.lt_of_mem (h : m.Visits root frames t node) (closed : m.Closed)
    (typed : m.ClosedType root) {i : Nat} (open' : i ∈ frames.map Prod.fst) :
    i < m.shapes.length := by
  obtain ⟨⟨i, r⟩, hr, rfl⟩ := List.mem_map.1 open'
  obtain ⟨inner, outer, rfl⟩ := List.append_of_mem hr
  have shape : m.Visits root outer (.shape i) r := h.of_suffix (List.suffix_append _ _)
  exact shape.closedType closed typed i rfl

/-- Distinct positions of a model are no more than its shapes. -/
theorem length_le_of_nodup {is : List Nat} (distinct : is.Nodup)
    (inside : ∀ i ∈ is, i < m.shapes.length) : is.length ≤ m.shapes.length := by
  have part : is.Subperm (List.range m.shapes.length) :=
    distinct.subperm fun i hi => List.mem_range.2 (inside i hi)
  have size := part.length_le
  rwa [List.length_range] at size

theorem Visits.length_le (h : m.Visits root frames t node) (closed : m.Closed)
    (typed : m.ClosedType root) : frames.length ≤ m.shapes.length := by
  have bound := length_le_of_nodup h.nodup fun i => h.lt_of_mem closed typed
  rwa [List.length_map] at bound

/-- A record opens one more shape. -/
theorem Visits.length_lt {members : List (String × Signature)}
    (h : m.Visits root frames t (.record members)) (closed : m.Closed)
    (typed : m.ClosedType root) : frames.length < m.shapes.length := by
  obtain ⟨i, rfl, fresh, -⟩ := signatureIn_eq_record h.signatureIn_eq
  have inside : ∀ j ∈ i :: frames.map Prod.fst, j < m.shapes.length := by
    rw [List.forall_mem_cons]
    exact ⟨h.closedType closed typed i rfl, fun j => h.lt_of_mem closed typed⟩
  have bound := length_le_of_nodup (List.nodup_cons.2 ⟨fresh, h.nodup⟩) inside
  rw [List.length_cons, List.length_map] at bound
  omega

/-- A reference leads to the record that its own shape became. -/
theorem Visits.reference {k : Nat} (h : m.Visits root frames t (.reference k)) :
    1 ≤ k ∧ k ≤ frames.length ∧ ∃ i r, t = .shape i ∧ frames[k - 1]? = some (i, r) ∧
      m.Visits root (frames.drop k) (.shape i) r := by
  obtain ⟨i, inner, outer, rfl, opened, rfl⟩ := signatureIn_eq_reference h.signatureIn_eq
  obtain ⟨front, back, rfl, rfl, same⟩ := List.map_eq_append_iff.1 opened
  obtain ⟨⟨j, r⟩, rest, rfl, rfl, rfl⟩ := List.map_eq_cons_iff.1 same
  have shape : m.Visits root rest (.shape j) r := h.of_suffix (List.suffix_append _ _)
  have below : (front ++ (j, r) :: rest).drop ((front.map Prod.fst).length + 1) = rest := by
    rw [List.length_map, List.drop_length_add_append]
    rfl
  refine ⟨by omega, by simp, j, r, rfl, by simp, ?_⟩
  rw [below]
  exact shape

/-! ## Every node is visited -/

theorem Visits.lies (h : m.Visits root frames t node) :
    (m.signature root).Lies (frames.map Prod.snd) node := by
  induction h with
  | root => exact .root
  | element _ ih => exact .element ih
  | member _ _ listed ih => exact .member ih (List.mem_of_getElem? listed)

theorem lies_iff {above : List Signature} :
    (m.signature root).Lies above node ↔
      ∃ frames t, m.Visits root frames t node ∧ frames.map Prod.snd = above := by
  constructor
  · intro h
    induction h with
    | root => exact ⟨[], root, .root, rfl⟩
    | element _ ih =>
      obtain ⟨frames, t, visited, rfl⟩ := ih
      obtain ⟨element, rfl, -⟩ := signatureIn_eq_container visited.signatureIn_eq
      exact ⟨frames, element, .element visited, rfl⟩
    | member _ listed ih =>
      obtain ⟨frames, t, visited, rfl⟩ := ih
      obtain ⟨i, rfl, -, rfl⟩ := signatureIn_eq_record visited.signatureIn_eq
      obtain ⟨j, hj⟩ := List.mem_iff_getElem?.1 listed
      have declared := hj
      rw [List.getElem?_map, Option.map_eq_some_iff] at declared
      obtain ⟨x, hx, -⟩ := declared
      exact ⟨_, x.type, .member visited hx hj, rfl⟩
  · rintro ⟨frames, t, visited, rfl⟩
    exact visited.lies

end Visits

/-- The expansion of a type comes to an end and gives its signature.  On no path of the signature
are more records than the model has shapes, and every node is visited on the way through the
expansion.  Where a visit finds a reference, it leads to one of the records on the way: to the one
that expanding its own shape has given. -/
theorem signature_wellScoped {d : Document} (m : Model) (loaded : Model.ofDocument d = .ok m)
    (root : MemberType) (typed : m.ClosedType root) :
    (∀ s, m.Expands [] root s ↔ s = m.signature root) ∧
      (∀ above node, (m.signature root).Lies above node →
        above.length ≤ m.shapes.length ∧
          ((∃ members, node = .record members) → above.length < m.shapes.length) ∧
          ∃ frames t, m.Visits root frames t node ∧ frames.map Prod.snd = above) ∧
      ∀ frames t k, m.Visits root frames t (.reference k) →
        1 ≤ k ∧ k ≤ frames.length ∧ ∃ i r, t = .shape i ∧ frames[k - 1]? = some (i, r) ∧
          m.Expands ((frames.drop k).map Prod.fst) (.shape i) r := by
  have closed : m.Closed := closed_of_ofDocument loaded
  refine ⟨fun s => closed.expands_iff typed, fun above node lies => ?_,
    fun frames t k visited => ?_⟩
  · obtain ⟨frames, t, visited, rfl⟩ := lies_iff.1 lies
    rw [List.length_map]
    refine ⟨visited.length_le closed typed, ?_, frames, t, visited, rfl⟩
    rintro ⟨members, rfl⟩
    exact visited.length_lt closed typed
  · obtain ⟨positive, inside, i, r, rfl, found, shape⟩ := visited.reference
    refine ⟨positive, inside, i, r, rfl, found, ?_⟩
    exact (closed.expands_iff (shape.closedType closed typed)).2 shape.signatureIn_eq.symm

/-- Two shapes that hold each other, through a list on one side and a map on the other. -/
def threads : Model where
  shapes :=
    [{ name := "Thread", members := [⟨"Title", .string, false⟩,
        ⟨"Posts", .container .list (.shape 1), false⟩] },
      { name := "Post", members := [⟨"Home", .shape 0, false⟩,
        ⟨"Replies", .container .map (.shape 1), false⟩] }]
  operations := []

def threadsDocument : Document :=
  .record [("shapes", .mapping
    [shapeEntry "Thread" [("Title", "string"), ("Posts", "list<Post>")],
      shapeEntry "Post" [("Home", "Thread"), ("Replies", "map<Post>")]])]

/-- The post inside a thread: its home is two records out, its replies are one. -/
theorem signature_wellScoped_threads :
    Model.ofDocument threadsDocument = .ok threads ∧
      threads.ClosedType (.container .list (.shape 0)) ∧
      threads.Expands [] (.container .list (.shape 0))
        (.container .list (.record
          [("Title", .primitive .string),
            ("Posts", .container .list (.record
              [("Home", .reference 2), ("Replies", .container .map (.reference 1))]))])) ∧
      ∀ frames t k, threads.Visits (.container .list (.shape 0)) frames t (.reference k) →
        k ≤ 2 ∧ ∃ i r, t = .shape i ∧ frames[k - 1]? = some (i, r) := by
  have loaded : Model.ofDocument threadsDocument = .ok threads := by cbv
  have typed : threads.ClosedType (.container .list (.shape 0)) := by
    rintro i ⟨⟩
    decide
  have signature : threads.signature (.container .list (.shape 0)) =
      .container .list (.record
        [("Title", .primitive .string),
          ("Posts", .container .list (.record
            [("Home", .reference 2), ("Replies", .container .map (.reference 1))]))]) := by cbv
  obtain ⟨ends, nested, refers⟩ := signature_wellScoped threads loaded _ typed
  refine ⟨loaded, typed, (ends _).2 signature.symm, fun frames t k visited => ?_⟩
  obtain ⟨-, inside, i, r, shape, found, -⟩ := refers frames t k visited
  have bound : (frames.map Prod.snd).length ≤ 2 := (nested _ _ visited.lies).1
  rw [List.length_map] at bound
  exact ⟨inside.trans bound, i, r, shape, found⟩

end Model

end FieldResolution
