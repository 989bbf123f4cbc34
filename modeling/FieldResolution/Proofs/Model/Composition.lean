import FieldResolution.Proofs.Model.Extension
import FieldResolution.Proofs.Model.Loaded
import FieldResolution.Proofs.Model.Passage
import Mathlib

/-!
# Paths cut in two

A path may be cut between any two of its segments.  The first part leads to a member that holds a
shape under some containers, and the second part leads on from that shape; what is crossed on the
whole way is what the first part crosses, then those containers, then what the second part crosses
(`passage_append_iff`).  So the member at the end of the whole path is the one that the second part
finds, inside the containers around what the first part finds (`follow_append_iff`).
-/

namespace FieldResolution

theorem MemberType.shape?_eq_some_iff {t : MemberType} {i : Nat} :
    t.shape? = some i ↔ t.core = .shape i := by
  unfold shape?
  split
  · rename_i j core
    rw [core, Option.some.injEq, MemberType.shape.injEq]
  · rename_i other
    exact iff_of_false nofun fun core => other i core

namespace Model

variable {m : Model} {s : Shape} {p q : List String} {crossed : List Container} {x : Member}

/-! ## Passages -/

/-- A passage that leads on from the shape under the member at the end of another. -/
theorem Passage.append {via : Member} {inner : Shape} {i : Nat} {cs ds rest : List Container}
    (first : m.Passage s p cs via) (type : via.type = .wrap ds (.shape i))
    (there : m.shapes[i]? = some inner) (second : m.Passage inner q rest x) :
    m.Passage s (p ++ q) (cs ++ (ds ++ rest)) x := by
  induction first with
  | last found =>
    rw [List.nil_append]
    exact .through found type there second
  | through found outer entered _ ih =>
    rw [List.append_assoc]
    exact .through found outer entered (ih type)

/-- A passage along a path that is cut in two leads through the member at the cut. -/
theorem Passage.cut (passage : m.Passage s (p ++ q) crossed x) (hp : p ≠ []) (hq : q ≠ []) :
    ∃ via i inner cs ds rest, m.Passage s p cs via ∧ via.type = .wrap ds (.shape i) ∧
      m.shapes[i]? = some inner ∧ m.Passage inner q rest x ∧ crossed = cs ++ (ds ++ rest) := by
  induction p generalizing s crossed with
  | nil => exact absurd rfl hp
  | cons name p ih =>
    generalize whole : name :: p ++ q = path at passage
    cases passage with
    | last found =>
      obtain ⟨-, none⟩ := List.cons.inj whole
      exact absurd (List.append_eq_nil_iff.1 none).2 hq
    | @through _ outer _ rest via _ i ds crossed found type there onward =>
      obtain ⟨rfl, rfl⟩ := List.cons.inj whole
      cases p with
      | nil => exact ⟨via, i, outer, [], ds, crossed, .last found, type, there, onward, rfl⟩
      | cons next p =>
        obtain ⟨last, j, inner, cs, es, rest, first, held, entered, second, rfl⟩ :=
          ih onward (List.cons_ne_nil next p)
        refine ⟨last, j, inner, ds ++ cs, es, rest, .through found type there first, held, entered,
          second, ?_⟩
        rw [List.append_assoc]

theorem passage_append_iff (hp : p ≠ []) (hq : q ≠ []) :
    m.Passage s (p ++ q) crossed x ↔
      ∃ via i inner cs ds rest, m.Passage s p cs via ∧ via.type = .wrap ds (.shape i) ∧
        m.shapes[i]? = some inner ∧ m.Passage inner q rest x ∧ crossed = cs ++ (ds ++ rest) := by
  constructor
  · exact fun passage => passage.cut hp hq
  · rintro ⟨via, i, inner, cs, ds, rest, first, type, there, second, rfl⟩
    exact first.append type there second

/-! ## Members at the end of a path -/

/-- The member that a path finds from a shape is the one that its second part finds from the shape
under the member at the cut, inside the containers around that shape. -/
theorem follow_append_iff (hp : p ≠ []) (hq : q ≠ []) {y : Member} :
    m.follow s (p ++ q) = some y ↔
      ∃ via i inner z, m.follow s p = some via ∧ via.type.core = .shape i ∧
        m.shapes[i]? = some inner ∧ m.follow inner q = some z ∧
          y = { z with type := .wrap via.type.layers z.type } := by
  rw [follow_eq_some_iff]
  constructor
  · rintro ⟨_, x, passage, rfl⟩
    obtain ⟨via, i, inner, cs, ds, rest, first, type, there, second, rfl⟩ :=
      (passage_append_iff hp hq).1 passage
    refine ⟨_, i, inner, _, follow_of_passage first, ?_, there, follow_of_passage second, ?_⟩
    · rw [MemberType.core_wrap, type, MemberType.core_wrap]
      rfl
    · have layers : (MemberType.wrap cs via.type).layers = cs ++ ds := by
        rw [MemberType.layers_wrap, type, MemberType.layers_wrap]
        exact congrArg (cs ++ ·) (List.append_nil ds)
      rw [layers, ← MemberType.wrap_append, List.append_assoc]
  · rintro ⟨_, i, inner, _, found, core, there, onward, rfl⟩
    obtain ⟨cs, via, first, rfl⟩ := follow_eq_some_iff.1 found
    obtain ⟨rest, x, second, rfl⟩ := follow_eq_some_iff.1 onward
    rw [MemberType.core_wrap] at core
    have type := MemberType.exists_wrap_of_shape? (MemberType.shape?_eq_some_iff.2 core)
    have passage := (passage_append_iff hp hq).2
      ⟨via, i, inner, cs, _, rest, first, type, there, second, rfl⟩
    refine ⟨_, x, passage, ?_⟩
    rw [MemberType.layers_wrap, ← MemberType.wrap_append, List.append_assoc]

/-- In a model that was read the shape at the cut is there, and a path leads through exactly if its
first part leads to a shape, under whatever containers, and its second part leads through from
there.  The containers at the cut, those that the first part crossed among them, are then around
what the second part finds. -/
theorem follow_append {d : Document} (h : ofDocument d = .ok m) (hs : s ∈ m.shapes)
    (hp : p ≠ []) (hq : q ≠ []) :
    (∀ via i, m.follow s p = some via → via.type.core = .shape i →
      ∃ inner, m.shapes[i]? = some inner) ∧
    ∀ y, m.follow s (p ++ q) = some y ↔
      ∃ via i inner z, m.follow s p = some via ∧ via.type.core = .shape i ∧
        m.shapes[i]? = some inner ∧ m.follow inner q = some z ∧
          y = { z with type := .wrap via.type.layers z.type } := by
  refine ⟨fun via i found core => ?_, fun y => follow_append_iff hp hq⟩
  have closed : m.ClosedType via.type := (closed_of_ofDocument h).closedType_of_follow hs found
  have inside := closed i (MemberType.shape?_eq_some_iff.2 core)
  exact ⟨m.shapes[i], List.getElem?_eq_getElem inside⟩

/-- A shape that holds itself in a map of lists, and another in a list. -/
def shelfDocument : Document :=
  .record
    [("shapes", .record
      [("Shelf", .record
        [("members", .record
          [("Parts", .text "map<list<Shelf>>"), ("Books", .text "list<Book>")])]),
        ("Book", .record
          [("members", .list
            [.record [("name", .text "Pages"), ("type", .text "map<integer>"),
              ("required", .bool true)]])])]),
      ("operations", .list
        [.record [("name", .text "GetShelf"), ("output", .text "Shelf")]])]

def shelf : Shape where
  name := "Shelf"
  members := [⟨"Parts", .container .map (.container .list (.shape 0)), false⟩,
    ⟨"Books", .container .list (.shape 1), false⟩]

def shelves : Model where
  shapes :=
    [shelf, { name := "Book", members := [⟨"Pages", .container .map (.primitive .integer), true⟩] }]
  operations := [{ name := "GetShelf", output := some 0, kind := .readOne }]

theorem follow_append_shelves :
    ofDocument shelfDocument = .ok shelves ∧
      shelves.follow shelf ["Parts", "Books"] =
        some ⟨"Books", .wrap [.map, .list, .list] (.shape 1), false⟩ ∧
      shelves.follow shelf (["Parts", "Books"] ++ ["Pages"]) =
        some ⟨"Pages", .wrap [.map, .list, .list, .map] (.primitive .integer), true⟩ ∧
      shelves.follow shelf (["Parts", "Books"] ++ ["Title"]) = none := by
  have read : ofDocument shelfDocument = .ok shelves := by cbv
  have there : shelf ∈ shelves.shapes := List.mem_cons_self
  have first : shelves.follow shelf ["Parts", "Books"] =
      some ⟨"Books", .wrap [.map, .list, .list] (.shape 1), false⟩ := by cbv
  have onward {q : List String} (hq : q ≠ []) := (follow_append read there
    (List.cons_ne_nil "Parts" ["Books"]) hq).2
  refine ⟨read, first, ?_, ?_⟩
  · exact (onward (List.cons_ne_nil "Pages" []) _).2
      ⟨_, 1, _, ⟨"Pages", .container .map (.primitive .integer), true⟩, first, rfl, rfl, rfl, rfl⟩
  · refine Option.eq_none_iff_forall_ne_some.2 fun y found => ?_
    obtain ⟨via, i, inner, z, again, core, entered, second, -⟩ :=
      (onward (List.cons_ne_nil "Title" []) y).1 found
    obtain rfl := Option.some.inj (first.symm.trans again)
    cases core
    cases entered
    cases second

end Model

end FieldResolution
