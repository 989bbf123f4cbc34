import Mathlib.Order.Lattice

/-!
# Sorting by a key

The items of a list are sorted by a key, and those of one key keep the order in which they were
(`pairwise_mergeSort_key`).  Items of distinct keys are in strict order (`strict_mergeSort_key`).
-/

namespace FieldResolution

variable {α κ : Type} [LinearOrder κ] [DecidableLE κ]

/-- Whatever holds between the items of a list, each with the later ones, still holds after sorting
between items of one key. -/
theorem pairwise_mergeSort_key (key : α → κ) {r : α → α → Prop} {l : List α}
    (before : l.Pairwise r) :
    (l.mergeSort fun a b => decide (key a ≤ key b)).Pairwise fun a b =>
      key a < key b ∨ key a = key b ∧ r a b := by
  -- the items are sorted as if each carried its place and ties were broken by place
  let le : α → α → Bool := fun a b => decide (key a ≤ key b)
  have perm : (l.zipIdx.mergeSort (List.zipIdxLE le)).Perm l.zipIdx := List.mergeSort_perm _ _
  have sorted : (l.zipIdx.mergeSort (List.zipIdxLE le)).Pairwise fun a b =>
      List.zipIdxLE le a b = true := by
    refine List.pairwise_mergeSort (List.zipIdxLE_trans ?_) (List.zipIdxLE_total ?_) _
    · intro a b c hab hbc
      exact decide_eq_true ((of_decide_eq_true hab).trans (of_decide_eq_true hbc))
    · intro a b
      simpa [le] using le_total (key a) (key b)
  have apart : (l.zipIdx.mergeSort (List.zipIdxLE le)).Pairwise fun a b => a.2 ≠ b.2 := by
    have places : (l.zipIdx.map Prod.snd).Nodup := by
      rw [List.zipIdx_map_snd]
      exact List.nodup_range'
    exact List.pairwise_map.1 ((perm.map Prod.snd).nodup_iff.2 places)
  rw [← List.mergeSort_zipIdx, List.pairwise_map]
  refine (sorted.and apart).imp_of_mem fun {a b} ha hb h => ?_
  obtain ⟨i, ia⟩ := List.getElem?_eq_some_iff.1 (List.mem_zipIdx_iff_getElem?.1 (perm.mem_iff.1 ha))
  obtain ⟨j, jb⟩ := List.getElem?_eq_some_iff.1 (List.mem_zipIdx_iff_getElem?.1 (perm.mem_iff.1 hb))
  have order : key a.1 ≤ key b.1 ∧ (key a.1 < key b.1 ∨ a.2 ≤ b.2) := by
    simpa [List.zipIdxLE, le] using h.1
  by_cases lower : key a.1 < key b.1
  · exact Or.inl lower
  · have earlier : a.2 < b.2 := Nat.lt_of_le_of_ne (order.2.resolve_left lower) h.2
    have kept : r a.1 b.1 := by
      rw [← ia, ← jb]
      exact List.pairwise_iff_getElem.1 before _ _ i j earlier
    exact Or.inr ⟨le_antisymm order.1 (not_lt.1 lower), kept⟩

theorem strict_mergeSort_key (key : α → κ) {l : List α} (distinct : (l.map key).Nodup) :
    (l.mergeSort fun a b => decide (key a ≤ key b)).Pairwise fun a b => key a < key b := by
  refine (pairwise_mergeSort_key key (List.pairwise_map.1 distinct)).imp ?_
  rintro a b (lower | ⟨same, apart⟩)
  · exact lower
  · exact absurd same apart

end FieldResolution
