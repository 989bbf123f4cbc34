import FieldResolution.Field.Resolved
import Mathlib.Data.List.Basic

/-!
# The columns of a listing

However the columns are arranged, there is one for every field that is listed, and none for any
other (`perm_field_ofFields`).  Where fields change in nothing that arranges them, their columns
change in place (`ofFields_map`).
-/

namespace FieldResolution

namespace Column

theorem arrange_perm (order : ColumnOrder) (l : List (ResolvedField × Listing)) :
    (arrange order l).Perm l := by
  cases order with
  | declaration => exact List.mergeSort_perm l _
  | index => exact (List.mergeSort_perm _ _).trans (List.mergeSort_perm l _)

theorem map_fst_listed (fields : List ResolvedField) :
    (listed fields).map Prod.fst = fields.filter fun f => f.listing.isSome := by
  unfold listed
  induction fields with
  | nil => rfl
  | cons f rest ih =>
    rw [List.filterMap_cons, List.filter_cons]
    cases f.listing with
    | none => simpa using ih
    | some l => simpa using ih

theorem listing_of_mem_listed {fields : List ResolvedField} {e : ResolvedField × Listing}
    (h : e ∈ listed fields) : e.1.listing = some e.2 := by
  obtain ⟨f, -, paired⟩ := List.mem_filterMap.1 h
  obtain ⟨l, hl, rfl⟩ := Option.map_eq_some_iff.1 paired
  exact hl

theorem map_name_listed (fields : List ResolvedField) :
    ((listed fields).map fun e => e.1.name) =
      (fields.filter fun f => f.listing.isSome).map ResolvedField.name := by
  rw [← map_fst_listed, List.map_map]
  rfl

theorem perm_field_ofFields (fields : List ResolvedField) (order : ColumnOrder) :
    ((ofFields fields order).map Column.field).Perm
      ((fields.filter fun f => f.listing.isSome).map ResolvedField.name) := by
  have names := (arrange_perm order (listed fields)).map fun e => e.1.name
  rw [map_name_listed] at names
  unfold ofFields
  rw [List.map_map]
  exact names

theorem mem_field_ofFields {fields : List ResolvedField} {order : ColumnOrder} {name : String} :
    name ∈ (ofFields fields order).map Column.field ↔
      ∃ f ∈ fields, f.listing.isSome = true ∧ f.name = name := by
  rw [(perm_field_ofFields fields order).mem_iff, List.mem_map]
  constructor
  · rintro ⟨f, hf, hn⟩
    obtain ⟨hf, hl⟩ := List.mem_filter.1 hf
    exact ⟨f, hf, hl, hn⟩
  · rintro ⟨f, hf, hl, hn⟩
    exact ⟨f, List.mem_filter.2 ⟨hf, hl⟩, hn⟩

/-! ## Fields that change where they stand -/

/-- A change of fields that leaves them their places and their listings, and how it shows in their
columns. -/
structure Redraws (change : ResolvedField → ResolvedField) (redraw : Column → Column) : Prop where
  position : ∀ f, (change f).position = f.position
  listing : ∀ f, (change f).listing = f.listing
  column : ∀ f l, ofListed (change f, l) = redraw (ofListed (f, l))

section Redraws

variable {change : ResolvedField → ResolvedField} {redraw : Column → Column}
  (r : Redraws change redraw)

include r

theorem Redraws.listed_map (fields : List ResolvedField) :
    listed (fields.map change) = (listed fields).map fun e => (change e.1, e.2) := by
  unfold listed
  rw [List.filterMap_map, List.map_filterMap]
  refine List.filterMap_congr fun f _ => ?_
  rw [Function.comp_apply, r.listing, Option.map_map]
  rfl

theorem Redraws.arrange_map (order : ColumnOrder) (l : List (ResolvedField × Listing)) :
    arrange order (l.map fun e => (change e.1, e.2)) =
      (arrange order l).map fun e => (change e.1, e.2) := by
  have sorted (before : ResolvedField × Listing → ResolvedField × Listing → Bool)
      (same : ∀ a b, before (change a.1, a.2) (change b.1, b.2) = before a b)
      (l : List (ResolvedField × Listing)) :
      (l.map fun e => (change e.1, e.2)).mergeSort before =
        (l.mergeSort before).map fun e => (change e.1, e.2) :=
    (List.map_mergeSort fun a _ b _ => (same a b).symm).symm
  have placed := sorted (fun a b => decide (a.1.position ≤ b.1.position))
    (fun a b => by rw [r.position, r.position]) l
  cases order with
  | declaration => exact placed
  | index =>
    unfold arrange
    dsimp only
    rw [placed]
    exact sorted _ (fun _ _ => rfl) _

/-- The columns stay where they are and show the change. -/
theorem ofFields_map (fields : List ResolvedField) (order : ColumnOrder) :
    ofFields (fields.map change) order = (ofFields fields order).map redraw := by
  unfold ofFields
  rw [r.listed_map, r.arrange_map, List.map_map, List.map_map]
  exact List.map_congr_left fun e _ => r.column e.1 e.2

end Redraws

end Column

end FieldResolution
