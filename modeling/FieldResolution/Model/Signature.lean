import FieldResolution.Model.Basic

/-!
# Signatures

The signature of a type is its structure with the names of shapes left out: a shape is the ordered
list of its member names with the signatures of their types.  A shape that is already open further
out is a reference that counts how many shapes out it stands, so signatures are finite.  Two types
are the same if their signatures are equal.
-/

namespace FieldResolution

/-- The structure of a type. -/
inductive Signature where
  | primitive (p : Primitive)
  | container (c : Container) (element : Signature)
  | record (members : List (String × Signature))
  | reference (levels : Nat)

namespace Signature

mutual

/-- Are two signatures equal? -/
def same : Signature → Signature → Bool
  | .primitive p, .primitive q => p == q
  | .container c s, .container d t => c == d && same s t
  | .record ms, .record ns => sameMembers ms ns
  | .reference k, .reference l => k == l
  | _, _ => false

/-- Are two lists of member signatures equal? -/
def sameMembers : List (String × Signature) → List (String × Signature) → Bool
  | [], [] => true
  | (a, s) :: ms, (b, t) :: ns => a == b && same s t && sameMembers ms ns
  | _, _ => false

end

mutual

theorem same_eq_true_iff : (s t : Signature) → (same s t = true ↔ s = t)
  | .primitive p, t => by cases t <;> simp [same]
  | .container c s, t => by
    cases t with
    | container d t => simp [same, same_eq_true_iff s t]
    | _ => simp [same]
  | .record ms, t => by
    cases t with
    | record ns => simp [same, sameMembers_eq_true_iff ms ns]
    | _ => simp [same]
  | .reference k, t => by cases t <;> simp [same]

theorem sameMembers_eq_true_iff :
    (ms ns : List (String × Signature)) → (sameMembers ms ns = true ↔ ms = ns)
  | [], ns => by cases ns <;> simp [sameMembers]
  | (a, s) :: ms, ns => by
    cases ns with
    | nil => simp [sameMembers]
    | cons e ns =>
      obtain ⟨b, t⟩ := e
      simp [sameMembers, same_eq_true_iff s t, sameMembers_eq_true_iff ms ns]

end

instance : DecidableEq Signature := fun s t => decidable_of_iff _ (same_eq_true_iff s t)

end Signature

namespace Model

/-- The positions of the model that are not open. -/
def unopened (m : Model) (opened : List Nat) : List Nat :=
  (List.range m.shapes.length).filter fun i => decide (i ∉ opened)

theorem length_unopened_cons_lt {m : Model} {opened : List Nat} {i : Nat}
    (h : i < m.shapes.length) (hi : i ∉ opened) :
    (m.unopened (i :: opened)).length < (m.unopened opened).length := by
  have : m.unopened (i :: opened) = (m.unopened opened).filter fun j => decide (j ≠ i) := by
    simp only [unopened, List.filter_filter]
    refine List.filter_congr fun j _ => ?_
    simp
  rw [this, List.length_filter_lt_length_iff_exists]
  exact ⟨i, by simp [unopened, h, hi], by simp⟩

/-- The signature of a type inside the open shapes, innermost first. -/
def signatureIn (m : Model) (opened : List Nat) : MemberType → Signature
  | .primitive p => .primitive p
  | .container c element => .container c (m.signatureIn opened element)
  | .shape i =>
    if hi : i ∈ opened then .reference (opened.idxOf i + 1)
    else
      match _hs : m.shapes[i]? with
      | none => .record []
      | some s => .record (s.members.map fun x => (x.name, m.signatureIn (i :: opened) x.type))
termination_by t => ((m.unopened opened).length, sizeOf t)
decreasing_by
  · exact Prod.Lex.right _ (by simp only [MemberType.container.sizeOf_spec]; omega)
  · exact Prod.Lex.left _ _ (length_unopened_cons_lt (List.getElem?_eq_some_iff.1 _hs).1 hi)

theorem signatureIn_primitive (m : Model) (opened : List Nat) (p : Primitive) :
    m.signatureIn opened (.primitive p) = .primitive p := by rw [signatureIn]

theorem signatureIn_container (m : Model) (opened : List Nat) (c : Container) (t : MemberType) :
    m.signatureIn opened (.container c t) = .container c (m.signatureIn opened t) := by
  rw [signatureIn]

theorem signatureIn_shape_of_mem {m : Model} {opened : List Nat} {i : Nat} (h : i ∈ opened) :
    m.signatureIn opened (.shape i) = .reference (opened.idxOf i + 1) := by
  rw [signatureIn, dif_pos h]

theorem signatureIn_shape_of_not_mem {m : Model} {opened : List Nat} {i : Nat} (h : i ∉ opened) :
    m.signatureIn opened (.shape i) =
      .record ((m.membersAt i).map fun x => (x.name, m.signatureIn (i :: opened) x.type)) := by
  rw [signatureIn, dif_neg h, membersAt]
  split
  · rename_i hs
    simp [hs]
  · rename_i s hs
    simp [hs]

/-- The signature of a type. -/
def signature (m : Model) (t : MemberType) : Signature := m.signatureIn [] t

/-- Do two types have the same structure? -/
def alike (m : Model) (a b : MemberType) : Bool := decide (m.signature a = m.signature b)

end Model

end FieldResolution
