import FieldResolution.Proofs.Model.Reading

/-!
# Models that were read

What holds of every model that a document declares, and so of every model that was read.  Each
shape that a type or an operation names stands in the model (`closed_of_ofDocument`), no shape is
declared twice (`nodup_shapeNames`), so that each is found by its name (`positionOf?_name`), and no
operation is (`nodup_operations`).
-/

namespace FieldResolution

variable {d : Document} {m : Model}

/-! ## Declared models -/

namespace Declares

variable (h : Declares d m)

include h

theorem nodup_shapeNames : m.shapeNames.Nodup := by
  obtain ⟨_, _, _, -, -, -, -, -, once, -⟩ := h
  exact once

theorem nodup_operations : (m.operations.map Operation.name).Nodup := by
  obtain ⟨_, _, _, -, -, -, -, -, -, distinct⟩ := h
  exact distinct

theorem typed : ∀ s ∈ m.shapes, ∀ x ∈ s.members, ∃ d, TypeText m.shapeNames d x.type := by
  obtain ⟨_, _, _, -, -, -, shapes, -⟩ := h
  exact forall_of_forall₂ (fun _ s defined => defined.2.typed) shapes

theorem closed : m.Closed := by
  have size : m.shapeNames.length = m.shapes.length := List.length_map _
  constructor
  · intro s hs x hx
    obtain ⟨_, _, -, spelled⟩ := h.typed s hs x hx
    rw [Model.ClosedType, ← size]
    exact spelled.shape?_lt
  · obtain ⟨_, _, _, -, -, -, -, operations, -⟩ := h
    rw [← size]
    exact forall_of_forall₂ (fun _ o declared => declared.shapeIndex?_lt) operations

end Declares

/-! ## Models that were read -/

namespace Model

theorem nodup_shapeNames (h : ofDocument d = .ok m) : m.shapeNames.Nodup :=
  (ofDocument_eq_ok_iff.1 h).nodup_shapeNames

theorem positionOf?_name (h : ofDocument d = .ok m) {i : Nat} {s : Shape}
    (hs : m.shapes[i]? = some s) : m.positionOf? s.name = some i := by
  refine (lastIndex?_eq_some_iff (nodup_shapeNames h)).2 ?_
  rw [shapeNames, List.getElem?_map, hs]
  rfl

theorem nodup_operations (h : ofDocument d = .ok m) : (m.operations.map Operation.name).Nodup :=
  (ofDocument_eq_ok_iff.1 h).nodup_operations

/-- No position of a model that was read leaves the model. -/
theorem closed_of_ofDocument (h : ofDocument d = .ok m) : m.Closed :=
  (ofDocument_eq_ok_iff.1 h).closed

end Model

end FieldResolution
