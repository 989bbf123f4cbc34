import FieldResolution.Model.OfDocument
import FieldResolution.Proofs.Model.Unfolding
import Mathlib.Data.List.Forall2
import Mathlib.Data.List.Permutation

/-!
# Structures and their members

Two shapes of which at most one is recursive are the same type exactly if neither is recursive and
their members agree, position by position (`alike_shapes_iff`).  A shape that is not recursive never
shows up as a reference, so its members may be compared on their own
(`signature_shape_of_not_recursive`), and a signature tells whether its shape is recursive
(`recursive_of_signature_eq`).  Among recursive shapes the comparison of the wholes and that of the
members part in both directions (`alike_shapes_of_recursive`).
-/

namespace FieldResolution

namespace Model

variable {m : Model}

/-- A shape that stands somewhere below its own members. -/
def Recursive (m : Model) (i : Nat) : Prop := Relation.TransGen m.Holds i i

/-- The members of two shapes agree in number, names and structure, position by position. -/
def MembersAlike (m : Model) (i j : Nat) : Prop :=
  List.Forall₂ (fun x y => x.name = y.name ∧ m.alike x.type y.type = true)
    (m.membersAt i) (m.membersAt j)

/-! ## Shapes that are not recursive -/

theorem Apart.of_member {below : List Nat} {i : Nat} (h : m.Apart below (.shape i)) {x : Member}
    (hx : x ∈ m.membersAt i) : m.Apart below x.type := by
  intro j hj
  have path : Relation.TransGen m.Holds i j := hj.of_member hx
  exact h j ⟨i, rfl, path.to_reflTransGen⟩

/-- Shapes that a type does not reach may be open below everything else. -/
theorem signatureIn_append_of_apart (opened : List Nat) {below : List Nat} {t : MemberType}
    (h : m.Apart below t) : m.signatureIn (opened ++ below) t = m.signatureIn opened t := by
  fun_induction m.signatureIn opened t with
  | case1 opened p => rw [signatureIn_primitive]
  | case2 opened c element ih =>
    -- a container reaches what its element reaches
    have inner : m.signatureIn (opened ++ below) element = m.signatureIn opened element := ih h
    rw [signatureIn_container, inner]
  | case3 opened i hi =>
    have open' : i ∈ opened ++ below := List.mem_append_left _ hi
    rw [signatureIn_shape_of_mem open', List.idxOf_append_of_mem hi]
  | case4 opened i hi hnone =>
    have closed : i ∉ opened ++ below := by
      rw [List.mem_append, not_or]
      exact ⟨hi, h i (reaches_shape i)⟩
    have empty : m.membersAt i = [] := by simp [membersAt, hnone]
    rw [signatureIn_shape_of_not_mem closed, empty, List.map_nil]
  | case5 opened i hi shape hsome ih =>
    have closed : i ∉ opened ++ below := by
      rw [List.mem_append, not_or]
      exact ⟨hi, h i (reaches_shape i)⟩
    have members : m.membersAt i = shape.members := by simp [membersAt, hsome]
    rw [signatureIn_shape_of_not_mem closed, members]
    refine congrArg Signature.record (List.map_congr_left fun x hx => ?_)
    rw [← members] at hx
    exact congrArg (Prod.mk x.name) (ih x (h.of_member hx))

theorem signature_shape_of_not_recursive {i : Nat} (h : ¬ m.Recursive i) :
    m.signature (.shape i) =
      .record ((m.membersAt i).map fun x => (x.name, m.signature x.type)) := by
  unfold signature
  rw [signatureIn_shape_of_not_mem List.not_mem_nil]
  refine congrArg Signature.record (List.map_congr_left fun x hx => ?_)
  have apart : m.Apart [i] x.type := by
    intro j hj hmem
    obtain rfl := List.mem_singleton.1 hmem
    exact h (hj.of_member hx)
  exact congrArg (Prod.mk x.name) (signatureIn_append_of_apart [] apart)

theorem membersAlike_iff {i j : Nat} :
    m.MembersAlike i j ↔
      ((m.membersAt i).map fun x => (x.name, m.signature x.type)) =
        (m.membersAt j).map fun y => (y.name, m.signature y.type) := by
  rw [← List.forall₂_eq_eq_eq, List.forall₂_map_left_iff, List.forall₂_map_right_iff]
  simp only [MembersAlike, alike, decide_eq_true_iff, Prod.mk.injEq]

/-! ## Shapes of one signature -/

/-- Types of one signature hold shapes of one signature. -/
theorem exists_shape?_of_signatureIn_eq {s t : List Nat} {a b : MemberType} {j : Nat}
    (h : m.signatureIn s a = m.signatureIn t b) (hb : b.shape? = some j) :
    ∃ i, a.shape? = some i ∧ m.signatureIn s (.shape i) = m.signatureIn t (.shape j) := by
  induction b generalizing a with
  | primitive p => cases hb
  | shape k =>
    cases hb
    obtain ⟨i, rfl⟩ := exists_shape_of_signatureIn_eq h.symm
    exact ⟨i, rfl, h⟩
  | container c element ih =>
    cases a with
    | primitive q => simp [signatureIn] at h
    | shape k =>
      obtain ⟨i, hi⟩ := exists_shape_of_signatureIn_eq h
      cases hi
    | container d u =>
      simp only [signatureIn_container, Signature.container.injEq] at h
      exact ih (a := u) h.2 hb

/-- What a stack stands on is kept by its lower parts. -/
theorem bottom_of_suffix {a l : Nat} {s s' : List Nat} (h : [a] <:+ s)
    (hs : l :: s' <:+ l :: s) : [a] <:+ l :: s' := by
  have inside : [a] <:+ l :: s := h.trans (List.suffix_cons _ _)
  exact List.suffix_of_suffix_length_le inside hs (by simp)

/-- A step from the upper shape on one side of paired stacks is a step on the other. -/
theorem Paired.step {s t : List Nat} {i j k a b : Nat} (h : Paired m (i :: s) (j :: t))
    (ha : [a] <:+ i :: s) (hb : [b] <:+ j :: t) (hk : m.Holds j k) :
    ∃ l s' t', m.Holds i l ∧ Paired m (l :: s') (k :: t') ∧ [a] <:+ l :: s' ∧ [b] <:+ k :: t' := by
  obtain ⟨y, hy, hyk⟩ := hk
  have listed : (y.name, m.signatureIn (j :: t) y.type) ∈
      (m.membersAt i).map fun x => (x.name, m.signatureIn (i :: s) x.type) := by
    rw [h.members_eq]
    exact List.mem_map_of_mem hy
  obtain ⟨x, hx, hxy⟩ := List.mem_map.1 listed
  obtain ⟨l, hl, same⟩ := exists_shape?_of_signatureIn_eq (congrArg Prod.snd hxy) hyk
  obtain ⟨s', t', paired, hs, ht⟩ := h.top same
  exact ⟨l, s', t', ⟨x, hx, hl⟩, paired, bottom_of_suffix ha hs, bottom_of_suffix hb ht⟩

/-- A path on one side is a path on the other, and the stacks stand on what they began with. -/
theorem Paired.follow {i j k : Nat} (start : Paired m [i] [j])
    (path : Relation.TransGen m.Holds j k) :
    ∃ l s t, Relation.TransGen m.Holds i l ∧ Paired m (l :: s) (k :: t) ∧
      [i] <:+ l :: s ∧ [j] <:+ k :: t := by
  induction path with
  | single first =>
    obtain ⟨l, s, t, step, rest⟩ := start.step List.suffix_rfl List.suffix_rfl first
    exact ⟨l, s, t, .single step, rest⟩
  | tail _ last ih =>
    obtain ⟨l, s, t, before, paired, hi, hj⟩ := ih
    obtain ⟨l', s', t', step, rest⟩ := paired.step hi hj last
    exact ⟨l', s', t', before.tail step, rest⟩

/-- Back at the lowest shape on one side, the other side is back at its own. -/
theorem Paired.eq_of_bottom {s t : List Nat} {i j l : Nat} (h : Paired m (l :: s) (j :: t))
    (hi : [i] <:+ l :: s) (hj : [j] <:+ j :: t) : l = i := by
  cases h with
  | cons below hl hjt same =>
    have ht : t = [] := by
      rcases List.suffix_cons_iff.1 hj with heq | inside
      · exact (List.cons.inj heq).2.symm
      · exact absurd (inside.subset (List.mem_singleton_self j)) hjt
    subst ht
    cases below
    obtain ⟨front, hfront⟩ := hi
    cases front with
    | nil => exact (List.cons.inj hfront).1.symm
    | cons a rest => simp at hfront

/-- Of two shapes with one signature both are recursive or neither is. -/
theorem recursive_of_signature_eq {i j : Nat}
    (same : m.signature (.shape i) = m.signature (.shape j)) (h : m.Recursive j) :
    m.Recursive i := by
  have start : Paired m [i] [j] := .cons .nil List.not_mem_nil List.not_mem_nil same
  obtain ⟨l, s, t, path, paired, hi, hj⟩ := start.follow h
  have back : l = i := paired.eq_of_bottom hi hj
  rw [back] at path
  exact path

/-! ## Comparing the whole and comparing the members -/

/-- Unless both are recursive, two shapes are the same type exactly if neither is recursive and
their members agree; recursive or not, the members of shapes that are the same type have the same
names and unfold alike. -/
theorem alike_shapes_iff (m : Model) (i j : Nat) :
    (m.alike (.shape i) (.shape j) = true ∧ ¬ (m.Recursive i ∧ m.Recursive j) ↔
        m.MembersAlike i j ∧ ¬ m.Recursive i ∧ ¬ m.Recursive j) ∧
      (m.alike (.shape i) (.shape j) = true →
        List.Forall₂ (fun x y => x.name = y.name ∧
            ∀ n, m.unfolding n x.type = m.unfolding n y.type)
          (m.membersAt i) (m.membersAt j)) := by
  rw [alike, decide_eq_true_iff, membersAlike_iff]
  refine ⟨⟨?_, ?_⟩, fun same => ?_⟩
  · rintro ⟨same, apart⟩
    have hi : ¬ m.Recursive i := fun h => apart ⟨h, recursive_of_signature_eq same.symm h⟩
    have hj : ¬ m.Recursive j := fun h => apart ⟨recursive_of_signature_eq same h, h⟩
    rw [signature_shape_of_not_recursive hi, signature_shape_of_not_recursive hj] at same
    exact ⟨Signature.record.inj same, hi, hj⟩
  · rintro ⟨members, hi, hj⟩
    rw [signature_shape_of_not_recursive hi, signature_shape_of_not_recursive hj, members]
    exact ⟨rfl, fun both => hi both.1⟩
  · have start : Paired m [i] [j] := .cons .nil List.not_mem_nil List.not_mem_nil same
    have members := start.members_eq
    rw [← List.forall₂_eq_eq_eq, List.forall₂_map_left_iff, List.forall₂_map_right_iff] at members
    refine members.imp fun x y hxy => ⟨congrArg Prod.fst hxy, fun n => ?_⟩
    exact unfolding_eq_of_signatureIn_eq n start (congrArg Prod.snd hxy)

/-! ## Recursive shapes -/

/-- A shape whose members are given by their names and the spellings of their types. -/
def shapeEntry (name : String) (members : List (String × String)) : Scalar × Document :=
  (.text name, .record [("members", .record (members.map fun x => (x.1, .text x.2)))])

/-- Two shapes that are declared by the same words and hold each other. -/
def twins : Model where
  shapes :=
    [{ name := "Left", members := [⟨"Next", .shape 1, false⟩, ⟨"Back", .shape 0, false⟩] },
      { name := "Right", members := [⟨"Next", .shape 1, false⟩, ⟨"Back", .shape 0, false⟩] }]
  operations := []

def twinsDocument : Document :=
  .record [("shapes", .mapping
    [shapeEntry "Left" [("Next", "Right"), ("Back", "Left")],
      shapeEntry "Right" [("Next", "Right"), ("Back", "Left")]])]

/-- A shape that holds one shape twice, and one that holds two such shapes. -/
def orders : Model where
  shapes :=
    [{ name := "Order", members := [⟨"Item", .shape 2, false⟩, ⟨"Gift", .shape 2, false⟩] },
      { name := "Purchase", members := [⟨"Item", .shape 3, false⟩, ⟨"Gift", .shape 4, false⟩] },
      { name := "Line", members := [⟨"Owner", .shape 0, false⟩] },
      { name := "Row", members := [⟨"Owner", .shape 1, false⟩] },
      { name := "Extra", members := [⟨"Owner", .shape 1, false⟩] }]
  operations := []

def ordersDocument : Document :=
  .record [("shapes", .mapping
    [shapeEntry "Order" [("Item", "Line"), ("Gift", "Line")],
      shapeEntry "Purchase" [("Item", "Row"), ("Gift", "Extra")],
      shapeEntry "Line" [("Owner", "Order")], shapeEntry "Row" [("Owner", "Purchase")],
      shapeEntry "Extra" [("Owner", "Purchase")]])]

/-- Recursive shapes with the same members need not be the same type, and recursive shapes that are
the same type need not have members of the same types. -/
theorem alike_shapes_of_recursive :
    (Model.ofDocument twinsDocument = .ok twins ∧ twins.membersAt 0 = twins.membersAt 1 ∧
        twins.MembersAlike 0 1 ∧ twins.alike (.shape 0) (.shape 1) = false) ∧
      (Model.ofDocument ordersDocument = .ok orders ∧
        orders.alike (.shape 0) (.shape 1) = true ∧ ¬ orders.MembersAlike 0 1) := by
  have right : twins.alike (.shape 1) (.shape 1) = true := by cbv
  have left : twins.alike (.shape 0) (.shape 0) = true := by cbv
  have lines : orders.alike (.shape 2) (.shape 3) = false := by cbv
  refine ⟨⟨by cbv, rfl, ?_, by cbv⟩, by cbv, by cbv, ?_⟩
  · exact .cons ⟨rfl, right⟩ (.cons ⟨rfl, left⟩ .nil)
  · rintro (_ | ⟨⟨-, item⟩, -⟩)
    rw [lines] at item
    cases item

end Model

end FieldResolution
