import FieldResolution.Proofs.Field.Column
import FieldResolution.Proofs.Sorting
import Mathlib.Data.List.Forall2
import Mathlib.Data.Int.Order.Basic

/-!
# The order of the columns

The columns are sorted by position and then, where that is asked for, by index.  The second sort
keeps what the first one did where two indexes are equal (`pairwise_mergeSort_key`), so the columns
of fields at distinct positions are in one strict order (`arrangement_ofFields`).  That leaves no
choice: the same fields in another order have the same columns (`ofFields_perm`), and where some of
them are taken out of the listing, the columns of the others stay as they are (`ofFields_unlist`).
-/

namespace FieldResolution

/-- The index that a field is listed with, a missing one counting as zero. -/
def ResolvedField.columnIndex (f : ResolvedField) : Int := (f.listing.bind Listing.index).getD 0

namespace Column

/-- The column is that of the field, which is listed. -/
structure Shows (c : Column) (f : ResolvedField) : Prop where
  field : c.field = f.name
  typeName : c.typeName = f.typeName
  listing : ∃ l, f.listing = some l ∧ c.header = l.header ∧ c.priority = l.priority

/-- The column of one field comes before that of another. -/
def Precedes (order : ColumnOrder) (f g : ResolvedField) : Prop :=
  match order with
  | .declaration => f.position < g.position
  | .index =>
    f.columnIndex < g.columnIndex ∨ f.columnIndex = g.columnIndex ∧ f.position < g.position

/-- The columns show the listed fields, one for each and in their order. -/
structure Arrangement (order : ColumnOrder) (fields shown : List ResolvedField)
    (columns : List Column) : Prop where
  listed : shown.Perm (fields.filter fun f => f.listing.isSome)
  ordered : shown.Pairwise (Precedes order)
  carried : List.Forall₂ Shows columns shown

/-! ## One arrangement at most -/

theorem Precedes.asymm {order : ColumnOrder} {f g : ResolvedField} (h : Precedes order f g) :
    ¬Precedes order g f := by
  unfold Precedes at *
  cases order <;> simp only at * <;> omega

theorem Shows.unique {c d : Column} {f : ResolvedField} (hc : c.Shows f) (hd : d.Shows f) :
    c = d := by
  obtain ⟨l, hl, header, priority⟩ := hc.listing
  obtain ⟨l', hl', header', priority'⟩ := hd.listing
  cases hl.symm.trans hl'
  rw [Column.mk.injEq]
  exact ⟨hc.field.trans hd.field.symm, header.trans header'.symm,
    hc.typeName.trans hd.typeName.symm, priority.trans priority'.symm⟩

/-- Which columns show the fields does not depend on the order in which those are given. -/
theorem Arrangement.unique {order : ColumnOrder} {fields fields' shown shown' : List ResolvedField}
    {columns columns' : List Column} (h : Arrangement order fields shown columns)
    (h' : Arrangement order fields' shown' columns') (same : fields'.Perm fields) :
    columns' = columns := by
  have perm : shown'.Perm shown := h'.listed.trans ((same.filter _).trans h.listed.symm)
  obtain rfl : shown' = shown :=
    perm.eq_of_pairwise (fun _ _ _ _ hfg hgf => absurd hgf hfg.asymm) h'.ordered h.ordered
  have one : Relator.LeftUnique Shows := fun _ _ _ => Shows.unique
  exact List.left_unique_forall₂' one h'.carried h.carried

/-! ## The arrangement -/

theorem pairwise_arrange {order : ColumnOrder} {l : List (ResolvedField × Listing)}
    (present : ∀ e ∈ l, e.1.listing = some e.2)
    (places : ((l.map Prod.fst).map ResolvedField.position).Nodup) :
    (arrange order l).Pairwise fun a b => Precedes order a.1 b.1 := by
  have placed : (l.mergeSort fun a b => decide (a.1.position ≤ b.1.position)).Pairwise
      fun a b => a.1.position < b.1.position := by
    rw [List.map_map] at places
    exact strict_mergeSort_key (ResolvedField.position ∘ Prod.fst) places
  cases order with
  | declaration => exact placed
  | index =>
    have index : ∀ e ∈ l, e.1.columnIndex = e.2.index.getD 0 := by
      intro e he
      rw [ResolvedField.columnIndex, present e he]
      rfl
    refine (pairwise_mergeSort_key (fun e => e.2.index.getD 0) placed).imp_of_mem ?_
    intro a b ha hb h
    rw [List.mem_mergeSort, List.mem_mergeSort] at ha hb
    rw [← index a ha, ← index b hb] at h
    exact h

/-- The columns of fields at distinct positions. -/
theorem arrangement_ofFields {fields : List ResolvedField} (order : ColumnOrder)
    (places : (fields.map ResolvedField.position).Nodup) :
    Arrangement order fields ((arrange order (listed fields)).map Prod.fst)
      (ofFields fields order) := by
  have perm : (arrange order (listed fields)).Perm (listed fields) := arrange_perm order _
  refine ⟨?_, ?_, ?_⟩
  · rw [← map_fst_listed]
    exact perm.map Prod.fst
  · refine List.pairwise_map.2 (pairwise_arrange (fun _ => listing_of_mem_listed) ?_)
    rw [map_fst_listed]
    exact places.sublist (List.filter_sublist.map _)
  · unfold ofFields
    rw [List.forall₂_map_left_iff, List.forall₂_map_right_iff, List.forall₂_same]
    exact fun e he => ⟨rfl, rfl, e.2, listing_of_mem_listed (perm.mem_iff.1 he), rfl, rfl⟩

theorem ofFields_perm {fields fields' : List ResolvedField} (order : ColumnOrder)
    (places : (fields.map ResolvedField.position).Nodup) (same : fields'.Perm fields) :
    ofFields fields' order = ofFields fields order := by
  have places' : (fields'.map ResolvedField.position).Nodup := (same.map _).nodup_iff.2 places
  exact (arrangement_ofFields order places).unique (arrangement_ofFields order places') same

/-! ## Fields that are taken out of the listing -/

/-- A change that takes fields out of the listing by their names, and that no column of another
field shows. -/
structure Unlists (keep : String → Bool) (change : ResolvedField → ResolvedField) : Prop where
  name : ∀ f, (change f).name = f.name
  typeName : ∀ f, (change f).typeName = f.typeName
  position : ∀ f, (change f).position = f.position
  listing : ∀ f, (change f).listing = if keep f.name then f.listing else none

section Unlists

variable {keep : String → Bool} {change : ResolvedField → ResolvedField} (u : Unlists keep change)

include u

theorem Unlists.filter_listed (fields : List ResolvedField) :
    ((fields.map change).filter fun f => f.listing.isSome) =
      ((fields.filter fun f => f.listing.isSome).filter fun f => keep f.name).map change := by
  rw [List.filter_map, List.filter_filter]
  refine congrArg (List.map change) (List.filter_congr fun f _ => ?_)
  rw [Function.comp_apply, u.listing]
  cases keep f.name <;> simp

theorem Unlists.precedes {order : ColumnOrder} {f g : ResolvedField} (hf : keep f.name = true)
    (hg : keep g.name = true) (h : Precedes order f g) : Precedes order (change f) (change g) := by
  have index {f : ResolvedField} (hf : keep f.name = true) :
      (change f).columnIndex = f.columnIndex := by
    unfold ResolvedField.columnIndex
    rw [u.listing, if_pos hf]
  unfold Precedes at *
  rwa [u.position, u.position, index hf, index hg]

theorem Unlists.shows {c : Column} {f : ResolvedField} (hf : keep f.name = true) (h : c.Shows f) :
    c.Shows (change f) where
  field := h.field.trans (u.name f).symm
  typeName := h.typeName.trans (u.typeName f).symm
  listing := by
    rw [u.listing, if_pos hf]
    exact h.listing

theorem Unlists.carried {columns : List Column} {shown : List ResolvedField}
    (h : List.Forall₂ Shows columns shown) :
    List.Forall₂ Shows (columns.filter fun c => keep c.field)
      ((shown.filter fun f => keep f.name).map change) := by
  induction h with
  | nil => exact .nil
  | @cons c f columns shown first _ ih =>
    rw [List.filter_cons, List.filter_cons, first.field]
    by_cases hf : keep f.name = true
    · rw [if_pos hf, if_pos hf]
      exact .cons (u.shows hf first) ih
    · rw [if_neg hf, if_neg hf]
      exact ih

theorem Arrangement.unlist {order : ColumnOrder} {fields shown : List ResolvedField}
    {columns : List Column} (h : Arrangement order fields shown columns) :
    Arrangement order (fields.map change) ((shown.filter fun f => keep f.name).map change)
      (columns.filter fun c => keep c.field) where
  listed := by
    rw [u.filter_listed]
    exact (h.listed.filter _).map change
  ordered := by
    rw [List.pairwise_map]
    refine (h.ordered.sublist List.filter_sublist).imp_of_mem fun {f g} hf hg before => ?_
    exact u.precedes (List.mem_filter.1 hf).2 (List.mem_filter.1 hg).2 before
  carried := u.carried h.carried

/-- The columns of the fields that stay listed are what they were, in the order in which they
were. -/
theorem ofFields_unlist {fields : List ResolvedField} (order : ColumnOrder)
    (places : (fields.map ResolvedField.position).Nodup) :
    ofFields (fields.map change) order = (ofFields fields order).filter fun c => keep c.field := by
  have places' : ((fields.map change).map ResolvedField.position).Nodup := by
    have same : ResolvedField.position ∘ change = ResolvedField.position := funext u.position
    rwa [List.map_map, same]
  have before := (arrangement_ofFields order places).unlist u
  exact before.unique (arrangement_ofFields order places') (List.Perm.refl _)

end Unlists

end Column

end FieldResolution
