import FieldResolution.Model.Signature
import Mathlib.Data.List.Forall2
import Mathlib.Logic.Relation

/-!
# Unfoldings

The unfolding of a type to depth `n` writes its structure out and stops below `n` nested shapes; a
shape that holds itself is written out again at every level.  Types with one signature have one
unfolding at every depth (`unfolding_eq_of_signatureIn_eq`), although a signature breaks a recursive
shape off: two references of one level stand for shapes that were opened side by side, `Paired`.
Where no shape holds itself there are no references, and the unfoldings decide the signature
(`signatureIn_eq_of_unfolding_eq`).
-/

namespace FieldResolution

/-- The structure of a type down to some depth. -/
inductive Unfolding where
  | cut
  | primitive (p : Primitive)
  | container (c : Container) (element : Unfolding)
  | record (members : List (String × Unfolding))

/-- Members that agree under every reading of one family agree under a reading that the family
decides. -/
theorem map_named_eq_of_imp {ι α β : Type} [Inhabited ι] {xs ys : List Member}
    {f g : ι → MemberType → α} {f' g' : MemberType → β}
    (himp : ∀ x ∈ xs, ∀ y ∈ ys, (∀ k, f k x.type = g k y.type) → f' x.type = g' y.type)
    (h : ∀ k, (xs.map fun x => (x.name, f k x.type)) = ys.map fun y => (y.name, g k y.type)) :
    (xs.map fun x => (x.name, f' x.type)) = ys.map fun y => (y.name, g' y.type) := by
  induction xs generalizing ys with
  | nil =>
    cases ys with
    | nil => rfl
    | cons y ys => simpa using h default
  | cons x xs ih =>
    cases ys with
    | nil => simpa using h default
    | cons y ys =>
      simp only [List.map_cons, List.cons.injEq, Prod.mk.injEq] at h ⊢
      have hxy : f' x.type = g' y.type := himp x (by simp) y (by simp) fun k => (h k).1.2
      refine ⟨⟨(h default).1.1, hxy⟩, ih ?_ fun k => (h k).2⟩
      exact fun x' hx y' hy => himp x' (by simp [hx]) y' (by simp [hy])

namespace Model

variable {m : Model}

/-- The structure of a type down to `n` nested shapes. -/
def unfolding (m : Model) : Nat → MemberType → Unfolding
  | _, .primitive p => .primitive p
  | n, .container c element => .container c (m.unfolding n element)
  | 0, .shape _ => .cut
  | n + 1, .shape i => .record ((m.membersAt i).map fun x => (x.name, m.unfolding n x.type))
termination_by n t => (n, sizeOf t)

@[simp] theorem unfolding_primitive (n : Nat) (p : Primitive) :
    m.unfolding n (.primitive p) = .primitive p := by
  cases n <;> rw [unfolding]

@[simp] theorem unfolding_container (n : Nat) (c : Container) (t : MemberType) :
    m.unfolding n (.container c t) = .container c (m.unfolding n t) := by
  cases n <;> rw [unfolding]

@[simp] theorem unfolding_zero_shape (i : Nat) : m.unfolding 0 (.shape i) = .cut := by
  rw [unfolding]

@[simp] theorem unfolding_succ_shape (n i : Nat) :
    m.unfolding (n + 1) (.shape i) =
      .record ((m.membersAt i).map fun x => (x.name, m.unfolding n x.type)) := by
  rw [unfolding]

/-! ## Equal signatures -/

/-- Two stacks of open shapes whose levels stand for one structure: the shapes of a level have
equal signatures inside the levels below them. -/
inductive Paired (m : Model) : List Nat → List Nat → Prop
  | nil : Paired m [] []
  | cons {s t : List Nat} {i j : Nat} (below : Paired m s t) (hi : i ∉ s) (hj : j ∉ t)
      (same : m.signatureIn s (.shape i) = m.signatureIn t (.shape j)) : Paired m (i :: s) (j :: t)

/-- Shapes that stand on one level of paired stacks open paired stacks of their own, the lower parts
of these. -/
theorem Paired.reopen {s t : List Nat} (h : Paired m s t) {i j : Nat} (hi : i ∈ s) (hj : j ∈ t)
    (level : s.idxOf i = t.idxOf j) :
    ∃ s' t', Paired m (i :: s') (j :: t') ∧ i :: s' <:+ s ∧ j :: t' <:+ t := by
  induction h with
  | nil => simp at hi
  | @cons s t i₀ j₀ below hi₀ hj₀ same ih =>
    by_cases hii : i₀ = i
    · by_cases hjj : j₀ = j
      · subst hii hjj
        exact ⟨s, t, .cons below hi₀ hj₀ same, List.suffix_rfl, List.suffix_rfl⟩
      · rw [hii, List.idxOf_cons_self, List.idxOf_cons_ne _ hjj] at level
        omega
    · by_cases hjj : j₀ = j
      · rw [hjj, List.idxOf_cons_self, List.idxOf_cons_ne _ hii] at level
        omega
      · rw [List.idxOf_cons_ne _ hii, List.idxOf_cons_ne _ hjj] at level
        obtain ⟨s', t', paired, hs, ht⟩ := ih (List.mem_of_ne_of_mem (Ne.symm hii) hi)
          (List.mem_of_ne_of_mem (Ne.symm hjj) hj) (by omega)
        exact ⟨s', t', paired, hs.trans (List.suffix_cons _ _), ht.trans (List.suffix_cons _ _)⟩

/-- Only shapes have the signature of a shape. -/
theorem exists_shape_of_signatureIn_eq {s t : List Nat} {i : Nat} {b : MemberType}
    (h : m.signatureIn s (.shape i) = m.signatureIn t b) : ∃ j, b = .shape j := by
  cases b with
  | shape j => exact ⟨j, rfl⟩
  | _ =>
    by_cases hi : i ∈ s
    · simp [signatureIn_shape_of_mem hi, signatureIn] at h
    · simp [signatureIn_shape_of_not_mem hi, signatureIn] at h

/-- Shapes with one signature stand on top of paired stacks: either they are opened now, or both
are references of one level. -/
theorem Paired.top {s t : List Nat} (h : Paired m s t) {i j : Nat}
    (same : m.signatureIn s (.shape i) = m.signatureIn t (.shape j)) :
    ∃ s' t', Paired m (i :: s') (j :: t') ∧ i :: s' <:+ i :: s ∧ j :: t' <:+ j :: t := by
  by_cases hi : i ∈ s
  · by_cases hj : j ∈ t
    · rw [signatureIn_shape_of_mem hi, signatureIn_shape_of_mem hj] at same
      simp only [Signature.reference.injEq, Nat.add_right_cancel_iff] at same
      obtain ⟨s', t', paired, hs, ht⟩ := h.reopen hi hj same
      exact ⟨s', t', paired, hs.trans (List.suffix_cons _ _), ht.trans (List.suffix_cons _ _)⟩
    · simp [signatureIn_shape_of_mem hi, signatureIn_shape_of_not_mem hj] at same
  · by_cases hj : j ∈ t
    · simp [signatureIn_shape_of_not_mem hi, signatureIn_shape_of_mem hj] at same
    · exact ⟨s, t, .cons h hi hj same, List.suffix_rfl, List.suffix_rfl⟩

/-- The members of two shapes that are opened together have equal signatures. -/
theorem Paired.members_eq {s t : List Nat} {i j : Nat} (h : Paired m (i :: s) (j :: t)) :
    ((m.membersAt i).map fun x => (x.name, m.signatureIn (i :: s) x.type)) =
      (m.membersAt j).map fun y => (y.name, m.signatureIn (j :: t) y.type) := by
  cases h with
  | cons below hi hj same =>
    rw [signatureIn_shape_of_not_mem hi, signatureIn_shape_of_not_mem hj] at same
    exact Signature.record.inj same

/-- Containers and primitives show in a signature, so only shapes are left to compare. -/
theorem unfolding_eq_of_shapes {n : Nat} {s t : List Nat}
    (shapes : ∀ i j, m.signatureIn s (.shape i) = m.signatureIn t (.shape j) →
      m.unfolding n (.shape i) = m.unfolding n (.shape j))
    {a b : MemberType} (h : m.signatureIn s a = m.signatureIn t b) :
    m.unfolding n a = m.unfolding n b := by
  induction a generalizing b with
  | primitive p =>
    cases b with
    | primitive q =>
      simp only [signatureIn_primitive, Signature.primitive.injEq] at h
      rw [h]
    | shape j =>
      obtain ⟨i, hi⟩ := exists_shape_of_signatureIn_eq h.symm
      cases hi
    | container d u => simp [signatureIn] at h
  | shape i =>
    obtain ⟨j, rfl⟩ := exists_shape_of_signatureIn_eq h
    exact shapes i j h
  | container c element ih =>
    cases b with
    | primitive q => simp [signatureIn] at h
    | shape j =>
      obtain ⟨i, hi⟩ := exists_shape_of_signatureIn_eq h.symm
      cases hi
    | container d u =>
      simp only [signatureIn_container, Signature.container.injEq] at h
      rw [unfolding_container, unfolding_container, h.1, ih h.2]

/-- Types with one signature inside paired stacks unfold alike. -/
theorem unfolding_eq_of_signatureIn_eq (n : Nat) {s t : List Nat} (paired : Paired m s t)
    {a b : MemberType} (h : m.signatureIn s a = m.signatureIn t b) :
    m.unfolding n a = m.unfolding n b := by
  induction n generalizing s t a b with
  | zero =>
    refine unfolding_eq_of_shapes (fun i j _ => ?_) h
    rw [unfolding_zero_shape, unfolding_zero_shape]
  | succ n ih =>
    refine unfolding_eq_of_shapes (fun i j same => ?_) h
    -- a reference goes back to the level where its shape was opened, so both cases open a pair
    obtain ⟨s', t', opened, -, -⟩ := paired.top same
    have members := map_named_eq_of_imp (ι := Unit) (fun x _ y _ hxy => ih opened (hxy ()))
      fun _ => opened.members_eq
    rw [unfolding_succ_shape, unfolding_succ_shape, members]

/-! ## Equal unfoldings -/

/-- Shape `i` has a member that holds shape `j`. -/
def Holds (m : Model) (i j : Nat) : Prop := ∃ x ∈ m.membersAt i, x.type.shape? = some j

/-- Shape `j` stands somewhere below a type. -/
def Reaches (m : Model) (t : MemberType) (j : Nat) : Prop :=
  ∃ i, t.shape? = some i ∧ Relation.ReflTransGen m.Holds i j

/-- No shape below the type reaches itself. -/
def Acyclic (m : Model) (t : MemberType) : Prop :=
  ∀ i, m.Reaches t i → ¬ Relation.TransGen m.Holds i i

theorem reaches_shape (i : Nat) : m.Reaches (.shape i) i := ⟨i, rfl, .refl⟩

theorem Reaches.of_member {i j : Nat} {x : Member} (hx : x ∈ m.membersAt i)
    (h : m.Reaches x.type j) : Relation.TransGen m.Holds i j := by
  obtain ⟨k, hk, path⟩ := h
  exact Relation.TransGen.head' ⟨x, hx, hk⟩ path

theorem Acyclic.member {i : Nat} (h : m.Acyclic (.shape i)) {x : Member}
    (hx : x ∈ m.membersAt i) : m.Acyclic x.type :=
  fun j hj => h j ⟨i, rfl, (hj.of_member hx).to_reflTransGen⟩

/-- No open shape stands below the type. -/
def Apart (m : Model) (opened : List Nat) (t : MemberType) : Prop :=
  ∀ i, m.Reaches t i → i ∉ opened

/-- Below the members of a shape that does not reach itself the shape may be opened. -/
theorem Apart.member {opened : List Nat} {i : Nat} (h : m.Apart opened (.shape i))
    (acyclic : m.Acyclic (.shape i)) {x : Member} (hx : x ∈ m.membersAt i) :
    m.Apart (i :: opened) x.type := by
  intro j hj
  have path : Relation.TransGen m.Holds i j := hj.of_member hx
  rw [List.mem_cons, not_or]
  refine ⟨?_, h j ⟨i, rfl, path.to_reflTransGen⟩⟩
  rintro rfl
  exact acyclic j (reaches_shape j) path

/-- Only shapes are cut at depth zero. -/
theorem exists_shape_of_unfolding_zero_eq {i : Nat} {b : MemberType}
    (h : m.unfolding 0 (.shape i) = m.unfolding 0 b) : ∃ j, b = .shape j := by
  cases b with
  | shape j => exact ⟨j, rfl⟩
  | _ => simp at h

/-- The members of shapes that unfold alike unfold alike. -/
theorem members_unfolding_eq {i j : Nat}
    (h : ∀ n, m.unfolding n (.shape i) = m.unfolding n (.shape j)) (n : Nat) :
    ((m.membersAt i).map fun x => (x.name, m.unfolding n x.type)) =
      (m.membersAt j).map fun y => (y.name, m.unfolding n y.type) := by
  have hn := h (n + 1)
  rw [unfolding_succ_shape, unfolding_succ_shape] at hn
  exact Unfolding.record.inj hn

/-- Types without recursive shapes that unfold alike have one signature. -/
theorem signatureIn_eq_of_unfolding_eq {s t : List Nat} {a b : MemberType}
    (ha : m.Acyclic a) (hb : m.Acyclic b) (has : m.Apart s a) (hbt : m.Apart t b)
    (h : ∀ n, m.unfolding n a = m.unfolding n b) : m.signatureIn s a = m.signatureIn t b := by
  fun_induction m.signatureIn s a generalizing t b with
  | case1 s p =>
    cases b with
    | primitive q =>
      have heq := h 0
      simp only [unfolding_primitive, Unfolding.primitive.injEq] at heq
      rw [signatureIn_primitive, heq]
    | shape j => simpa using h 0
    | container d u => simpa using h 0
  | case2 s c element ih =>
    cases b with
    | primitive q => simpa using h 0
    | shape j => simpa using h 0
    | container d u =>
      simp only [unfolding_container, Unfolding.container.injEq] at h
      -- a container reaches what its element reaches
      have inner : m.signatureIn s element = m.signatureIn t u :=
        ih (b := u) ha hb has hbt fun n => (h n).2
      rw [signatureIn_container, (h 0).1, inner]
  | case3 s i hi => exact absurd hi (has i (reaches_shape i))
  | case4 s i hi hnone =>
    obtain ⟨j, rfl⟩ := exists_shape_of_unfolding_zero_eq (h 0)
    have hj : j ∉ t := hbt j (reaches_shape j)
    have members := members_unfolding_eq h 0
    rw [show m.membersAt i = [] by simp [membersAt, hnone]] at members
    have hempty : m.membersAt j = [] := by simpa using members.symm
    rw [signatureIn_shape_of_not_mem hj, hempty, List.map_nil]
  | case5 s i hi shape hsome ih =>
    obtain ⟨j, rfl⟩ := exists_shape_of_unfolding_zero_eq (h 0)
    have hj : j ∉ t := hbt j (reaches_shape j)
    have hmembers : m.membersAt i = shape.members := by simp [membersAt, hsome]
    rw [signatureIn_shape_of_not_mem hj, ← hmembers]
    refine congrArg Signature.record (map_named_eq_of_imp (fun x hx y hy hxy => ?_)
      (members_unfolding_eq h))
    exact ih x (ha.member hx) (hb.member hy) (has.member ha hx) (hbt.member hb hy) hxy

/-! ## Types of one structure -/

/-- Types are the same only if they unfold alike at every depth; the converse holds where no shape
below either of them reaches itself. -/
theorem alike_unfolding (m : Model) (a b : MemberType) :
    (m.alike a b = true → ∀ n, m.unfolding n a = m.unfolding n b) ∧
      (m.Acyclic a → m.Acyclic b → (∀ n, m.unfolding n a = m.unfolding n b) →
        m.alike a b = true) := by
  rw [alike, decide_eq_true_iff]
  constructor
  · intro h n
    exact unfolding_eq_of_signatureIn_eq n .nil h
  · intro ha hb h
    have apart : ∀ c, m.Apart [] c := fun c i _ => List.not_mem_nil
    exact signatureIn_eq_of_unfolding_eq ha hb (apart a) (apart b) h

/-- Two recursive shapes that go by different names, and two flat ones. -/
def grove : Model where
  shapes :=
    [{ name := "Tree", members := [⟨"Label", .string, true⟩,
        ⟨"Children", .container .list (.shape 0), false⟩] },
      { name := "Node", members := [⟨"Label", .string, false⟩,
        ⟨"Children", .container .list (.shape 1), false⟩] },
      { name := "Tag", members := [⟨"Key", .string, true⟩] },
      { name := "Pair", members := [⟨"Key", .string, false⟩] }]
  operations := []

theorem grove_acyclic {i : Nat} {b : Bool} (h : grove.membersAt i = [⟨"Key", .string, b⟩]) :
    grove.Acyclic (.shape i) := by
  have leaf : ∀ j, ¬ grove.Holds i j := by
    rintro j ⟨x, hx, hj⟩
    rw [h, List.mem_singleton] at hx
    subst hx
    cases hj
  rintro j ⟨k, hk, path⟩ cycle
  cases hk
  rcases path.cases_head with rfl | ⟨l, step, -⟩
  · obtain ⟨l, step, -⟩ := Relation.TransGen.head'_iff.1 cycle
    exact leaf l step
  · exact leaf l step

theorem alike_unfolding_grove :
    (grove.alike (.shape 0) (.shape 1) = true ∧
        ∀ n, grove.unfolding n (.shape 0) = grove.unfolding n (.shape 1)) ∧
      (grove.Acyclic (.shape 2) ∧ grove.Acyclic (.shape 3) ∧
        (∀ n, grove.unfolding n (.shape 2) = grove.unfolding n (.shape 3)) ∧
        grove.alike (.shape 2) (.shape 3) = true) := by
  have recursive : grove.alike (.shape 0) (.shape 1) = true := by cbv
  have tag : grove.Acyclic (.shape 2) := grove_acyclic rfl
  have pair : grove.Acyclic (.shape 3) := grove_acyclic rfl
  have flat : ∀ n, grove.unfolding n (.shape 2) = grove.unfolding n (.shape 3) := by
    intro n
    cases n <;> simp [grove, membersAt]
  exact ⟨⟨recursive, (alike_unfolding grove _ _).1 recursive⟩, tag, pair, flat,
    (alike_unfolding grove _ _).2 tag pair flat⟩

end Model

end FieldResolution
